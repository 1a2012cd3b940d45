/-
**What a run would change.**

A preview renders every template and compares the text with the output that is there.  An output
that is missing counts as empty; an output that is as it should be is passed over.

Main definitions:

* `Compile.Change`, `Compile.Preview` — a difference, and all of them;
* `Compile.Plan.compareJob` — one template;
* `Compile.preview` — all templates below a root.
-/

import JellyViews.Compile.Run
import JellyViews.Diff.Unified

set_option relaxedAutoImplicit false
set_option autoImplicit false

namespace JellyViews

namespace Compile

/-- An output that would change, and how. -/
structure Change where
  path : Path
  diff : String
deriving DecidableEq

/-- All changes below a root, and the templates for which none is known. -/
structure Preview where
  root : Path
  changes : List Change
  failures : List Failure
deriving DecidableEq

/-- The text of an output; a missing one is empty. -/
def textOrEmpty (t : FileTree) (p : Path) : Except FileError String :=
  match t.readText p with
  | .ok text => .ok text
  | .error .missing => .ok ""
  | .error e => .error e

namespace Plan

/-- The change from one text of an output to another, if they differ. -/
def changeOf (plan : Plan) (job : Job) (existing rendered : String) : Option Change :=
  if existing = rendered then none
  else
    some ⟨job.destination, Diff.unified ("a/" ++ job.destinationName plan.root)
      ("b/" ++ job.destinationName plan.root) existing rendered⟩

/-- Renders a template and compares the text with its output. -/
def compareJob (plan : Plan) (t : FileTree) (job : Job) : Except Failure (Option Change) :=
  match plan.render t job with
  | .error failure => .error failure
  | .ok rendered =>
    match textOrEmpty t job.destination with
    | .error e => .error (.ofComparing job.source job.destination e)
    | .ok existing => .ok (plan.changeOf job existing rendered)

/-- The comparisons of templates, parted into changes and failures. -/
def compareAll (plan : Plan) (t : FileTree) : List Job → List Change × List Failure
  | [] => ([], [])
  | job :: jobs =>
    let (changes, failures) := compareAll plan t jobs
    match plan.compareJob t job with
    | .ok (some change) => (change :: changes, failures)
    | .ok none => (changes, failures)
    | .error failure => (changes, failure :: failures)

end Plan

/-- What a run would change below a root. -/
def preview (t : FileTree) (root : Path) (suffix : String) : Except CompileError Preview := do
  let plan ← prepare t root suffix
  let (changes, failures) := plan.compareAll t plan.discovery.jobs
  return ⟨root, changes, plan.discovery.unreadable ++ failures⟩

end Compile

end JellyViews
