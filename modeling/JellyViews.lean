import JellyViews.Main
import JellyViews.Tag.Script
import JellyViews.Proofs.Path.Order
import JellyViews.Proofs.Path.Segments
import JellyViews.Proofs.FileTree.Following
import JellyViews.Proofs.FileTree.Names
import JellyViews.Proofs.FileTree.Changes
import JellyViews.Proofs.Compile.Replacing
import JellyViews.Proofs.Compile.Finding
import JellyViews.Proofs.Compile.Places
import JellyViews.Proofs.Compile.Single
import JellyViews.Proofs.Compile.Separate
import JellyViews.Proofs.Compile.Course
import JellyViews.Proofs.Compile.Sources
import JellyViews.Proofs.Compile.Results
import JellyViews.Proofs.Markup.Steps
import JellyViews.Proofs.Tag.CallStyles
import JellyViews.Proofs.Markup.Nesting
import JellyViews.Proofs.Tag.Balance
import JellyViews.Proofs.Compile.Traversal
import JellyViews.Proofs.Compile.Differences
import JellyViews.Proofs.Template.InsideOut
import JellyViews.Proofs.Compile.Accounts
import JellyViews.Proofs.Markup.Decoding
import JellyViews.Proofs.Compile.AllOrNothing
import JellyViews.Proofs.Compile.Rediscovery
import JellyViews.Proofs.Compile.Repeating
import JellyViews.Proofs.Outcome
import JellyViews.Proofs.Tag.Registering
import JellyViews.Proofs.Extension.Accepting
import JellyViews.Proofs.Extension.History
import JellyViews.Proofs.Expression
import JellyViews.Proofs.Tag.Selecting
import JellyViews.Proofs.Command.Surfacing
import JellyViews.Proofs.Template.Extending
import JellyViews.Proofs.Tag.Attributes
import JellyViews.Proofs.Extension.Using
import JellyViews.Proofs.Tag.Settling
import JellyViews.Proofs.Tag.Emitting
import JellyViews.Proofs.Tag.Closing
import JellyViews.Proofs.Path.Siblings
import JellyViews.Proofs.Compile.Destinations
import JellyViews.Proofs.Path.Relative
import JellyViews.Proofs.Compile.Naming
import JellyViews.Proofs.OrderedMap.Merging
import JellyViews.Proofs.OrderedMap.History
import JellyViews.Proofs.Template.Arguments
import JellyViews.Proofs.Compile.Reporting
import JellyViews.Proofs.Naming.CamelCase
import JellyViews.Proofs.Extension.Grammar
import JellyViews.Proofs.Expression.Bytes
