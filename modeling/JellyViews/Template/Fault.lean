/-
**Why a template cannot be rendered.**

A fault inside of a call is reported behind the call: the report is a chain of errors, outermost
first.  When a tag operation refused its call, its error stands in the chain, behind any number of
messages, and the report is then about this error alone.

Main definitions:

* `Template.Fault` — the causes;
* `Template.Chain`, `Template.Fault.chain` — messages, outermost first, and the tag error behind
  them;
* `Template.Link`, `Template.Chain.links` — the errors of a chain, one by one;
* `RenderError`, `RenderError.ofLinks`, `RenderError.ofChain` — the report on a template.
-/

import JellyViews.Tag.Error
import JellyViews.Template.Fault.Filter
import JellyViews.Template.Fault.Operand
import JellyViews.Template.Fault.Test

set_option relaxedAutoImplicit false
set_option autoImplicit false

namespace JellyViews

namespace Template

open Text

/-! ### Causes -/

/-- A cause for which the evaluation of a template ends. -/
inductive Fault where
  /-- No variable has this path, in the template of this name. -/
  | undefinedVariable (path template : String)
  /-- No variable has this path, whose brackets make it the path `reached`. -/
  | unmatchedPath (path template reached : String)
  /-- A variable in the brackets of a path is no name of a part. -/
  | unusableIndex (index path : String)
  /-- A variable in the brackets of a path has no value. -/
  | unresolvedIndex (path : String) (cause : Fault)
  | unknownFunction (name : String)
  | unknownFilter (name : String)
  | unknownTest (name : String)
  /-- Functions of this namespace were never brought into the template. -/
  | unknownSpace (space template : String)
  /-- The template gave up, with a message. -/
  | thrown (message : String)
  /-- The template gave up, but its message is no text. -/
  | thrownValue (value : Json)
  /-- The template gave up without a message. -/
  | thrownNothing
  /-- A bound of a range is no number. -/
  | wrongBound (arg shownAs : String) (value : Json)
  /-- A range has no end. -/
  | endless
  /-- A range ends before it starts. -/
  | backwards
  /-- A variable without a value has no value to stand in for it. -/
  | noDefault
  | filter (cause : FilterFault)
  | test (cause : TestFault)
  | operand (cause : OperandFault)
  /-- A tag was to enclose a value that is no text. -/
  | unrendered (tag : String) (value : Json)
  /-- A tag refused its call. -/
  | refused (tag : String) (error : TagError)
  /-- Values other than texts and numbers cannot be joined; the source says where one came from. -/
  | notJoinable (source : String)
  /-- A fault in arithmetic, of which only the outermost message counts. -/
  | inArithmetic (cause : Fault)
  | inFunction (name : String) (cause : Fault)
  | inFilter (name : String) (cause : Fault)
  | inTest (name : String) (cause : Fault)

/-! ### Chains of errors -/

/-- One error of a chain: a message, or the error of a tag. -/
inductive Link where
  | message (text : String)
  | refusal (error : TagError)

namespace Link

/-- What the error says. -/
def text : Link → String
  | message text => text
  | refusal error => error.message

/-- The tag error, if it is one. -/
def refusal? : Link → Option TagError
  | message _ => none
  | refusal error => some error

end Link

/-- Messages, outermost first, and the tag error behind the innermost one. -/
structure Chain where
  messages : List String
  cause : Option TagError

namespace Chain

/-- One message without a tag error behind it. -/
def single (message : String) : Chain := ⟨[message], none⟩

/-- The chain behind one more message. -/
def under (message : String) (c : Chain) : Chain := ⟨message :: c.messages, c.cause⟩

/-- The outermost message. -/
def outermost (c : Chain) : String := c.messages.headD ""

/-- All errors, the outermost one first. -/
def links (c : Chain) : List Link := c.messages.map .message ++ (c.cause.map .refusal).toList

@[simp] theorem cause_under (message : String) (c : Chain) :
    (c.under message).cause = c.cause := rfl

end Chain

/-- The message about a variable without a value. -/
def undefinedMessage (path template : String) : String :=
  "Variable " ++ backquoted path ++ " not found in context while rendering '" ++ template ++ "'"

/-- The chain of errors of a fault. -/
def Fault.chain : Fault → Chain
  | undefinedVariable path template => .single (undefinedMessage path template)
  | unmatchedPath path template reached =>
    .single (undefinedMessage path template ++ ": the evaluated version was " ++
      backquoted reached ++ ". Maybe the index is out of bounds?")
  | unusableIndex index path =>
    .single ("Only variables evaluating to String or Number can be used as index (" ++
      backquoted index ++ " of " ++ backquoted path ++ ")")
  | unresolvedIndex path cause =>
    .single ("Variable " ++ path ++ " can not be evaluated because: " ++ cause.chain.outermost)
  | unknownFunction name => .single ("Function '" ++ name ++ "' not found")
  | unknownFilter name => .single ("Filter '" ++ name ++ "' not found")
  | unknownTest name => .single ("Test '" ++ name ++ "' not found")
  | unknownSpace space template =>
    .single ("Macro namespace " ++ backquoted space ++ " was not found in template " ++
      backquoted template ++ ". Have you maybe forgotten to import it, or misspelled it?")
  | thrown message => .single message
  | thrownValue value =>
    .single ("Function \x60throw\x60 received message=" ++ value.compact ++
      " but \x60message\x60 can only be a string")
  | thrownNothing => .single "Function \x60throw\x60 was called without a \x60message\x60 argument"
  | wrongBound arg shownAs value =>
    .single ("Function \x60range\x60 received " ++ arg ++ "=" ++ value.compact ++ " but " ++
      backquoted shownAs ++ " can only be a number")
  | endless => .single "Function \x60range\x60 was called without a \x60end\x60 argument"
  | backwards =>
    .single ("Function \x60range\x60 was called without a \x60start\x60 argument greater than " ++
      "the \x60end\x60 one")
  | noDefault => .single "The \x60default\x60 filter requires a \x60value\x60 argument."
  | filter cause => .single cause.message
  | test cause => .single cause.message
  | operand cause => .single cause.message
  | unrendered tag value =>
    .single ("tag '" ++ tag ++ "' can only wrap rendered text, got " ++ value.compact)
  | refused tag error => ⟨["tag '" ++ tag ++ "' failed"], some error⟩
  | notJoinable source =>
    .single ("Tried to concat a value that is not a string or a number from " ++ source)
  | inArithmetic cause => .single cause.chain.outermost
  | inFunction name cause => cause.chain.under ("Function call '" ++ name ++ "' failed")
  | inFilter name cause => cause.chain.under ("Filter call '" ++ name ++ "' failed")
  | inTest name cause => cause.chain.under ("Test call '" ++ name ++ "' failed")

end Template

/-! ### Reports -/

open Template

/-- The report on a template that could not be rendered. -/
inductive RenderError where
  /-- The engine itself failed, outside of any template. -/
  | engine (message : String)
  /-- The template could not be read or evaluated. -/
  | evaluation (template message : String)
  /-- A tag of the template refused its call. -/
  | tag (template : String) (error : TagError)
deriving DecidableEq

namespace RenderError

/-- The report of errors, the outermost one first: on the first tag error, if there is one, and
otherwise on what all of them say. -/
def ofLinks (template : String) (links : List Link) : RenderError :=
  match links.findSome? Link.refusal? with
  | some e => .tag template e
  | none => .evaluation template (String.intercalate ": " (links.map Link.text))

/-- The report of a chain. -/
def ofChain (template : String) (c : Chain) : RenderError := ofLinks template c.links

/-- The text of a report. -/
def message : RenderError → String
  | engine message => "template engine error: " ++ message
  | evaluation template message => "template '" ++ template ++ "' failed: " ++ message
  | tag template error => "template '" ++ template ++ "': " ++ error.message

/-- Whether the report is about an argument without a form as an attribute value. -/
def isInvalidAttribute : RenderError → Bool
  | tag _ (.invalidAttributeValue _ _ _) => true
  | _ => false

end RenderError

end JellyViews
