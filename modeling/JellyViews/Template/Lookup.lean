/-
**Looking up variables.**

The variables of a template are texts, so a path with more than one part leads nowhere.  A path with
brackets is made a path with dots before it is looked up; a path between its brackets is looked up
first, and its value stands for it.

Main definitions:

* `Template.find?` — the value of a name;
* `Template.innerPaths` — the paths between the brackets of a path;
* `Template.dotted` — a path with dots in the place of brackets;
* `Template.lookup` — the value of a path, or why it has none.
-/

import JellyViews.Template.Fault
import JellyViews.Template.Value
import JellyViews.Template.Variables

set_option relaxedAutoImplicit false
set_option autoImplicit false

namespace JellyViews

namespace Template

/-! ### Names -/

/-- The name that stands for all variables together. -/
def everything : String := "__tera_context"

/-- All variables, in the order of their names. -/
def Variables.asObject (v : Variables) : Json :=
  .object ((v.pairs.mergeSort fun a b => decide (a.1 ≤ b.1)).map fun p => (p.1, .string p.2))

/-- The value of a name. -/
def find? (vars : Variables) (name : String) : Option Json :=
  if name = everything then some (.string vars.asObject.laidOut)
  else (vars.lookup name).map .string

/-! ### Brackets -/

/-- Whether the text between brackets is an index of an array. -/
def isIndex (cs : List Char) : Bool :=
  match Decimal.natOf? 10 cs with
  | some n => decide (n < 0x10000000000000000)
  | none => false

/-- The depth of brackets behind a character. -/
def depthAfter (depth : Nat) (c : Char) : Nat :=
  if c = '[' then depth + 1 else if c = ']' then depth - 1 else depth

/-- The texts between brackets that are neither quoted nor indices.  `inside` holds the depth of
brackets and the text since the outermost one, in reverse. -/
def innerPaths : Option (Nat × List Char) → List Char → List (List Char)
  | _, [] => []
  | none, '[' :: c :: cs =>
    if c = '"' ∨ c = '\'' then innerPaths none cs else innerPaths (some (1, [c])) cs
  | none, _ :: cs => innerPaths none cs
  | some (depth, text), c :: cs =>
    match depthAfter depth c with
    | 0 => (if isIndex text.reverse then [] else [text.reverse]) ++ innerPaths none cs
    | d + 1 => innerPaths (some (d + 1, c :: text)) cs

/-- The path with a value in the place of the first brackets around an inner path. -/
def withValue (inner value path : String) : String :=
  let brackets := "[" ++ inner ++ "]"
  match Text.split brackets path with
  | [] => path
  | first :: rest => first ++ "." ++ value ++ String.intercalate brackets rest

/-- The path with dots in the place of the brackets that are left. -/
def dotted (path : String) : String :=
  [("/", "~1"), ("['", ".\""), ("[\"", ".\""), ("[", "."), ("']", "\""), ("\"]", "\""),
    ("]", "")].foldl (fun p r => Text.replace r.1 r.2 p) path

/-- The text that stands for a value between brackets. -/
def indexText? : Json → Option String
  | .string s => some ("\"" ++ s ++ "\"")
  | .int n => some (Decimal.ofInt n)
  | .float x => some (Decimal.dataLayout.write x)
  | _ => none

/-- The path `reached` with the values of inner paths of `path`. -/
def withValues (value : String → Except Fault Json) (path : String) :
    String → List String → Except Fault String
  | reached, [] => .ok reached
  | reached, inner :: rest =>
    match value inner with
    | .error e => .error (.unresolvedIndex path e)
    | .ok v =>
      match indexText? v with
      | some text => withValues value path (withValue inner text reached) rest
      | none => .error (.unusableIndex inner path)

/-! ### Paths -/

/-- The value of a path whose brackets nest at most so deep. -/
def lookupAt (vars : Variables) (template : String) : Nat → String → Except Fault Json
  | 0, path => .error (.undefinedVariable path template)
  | n + 1, path =>
    if path.toList.contains '[' then do
      let inner := (innerPaths none path.toList).map String.ofList
      let reached ← withValues (lookupAt vars template n) path path inner
      match find? vars (dotted reached) with
      | some v => return v
      | none => .error (.unmatchedPath path template (dotted reached))
    else
      match find? vars path with
      | some v => .ok v
      | none => .error (.undefinedVariable path template)

/-- The value of a path in a template. -/
def lookup (vars : Variables) (template path : String) : Except Fault Json :=
  lookupAt vars template (path.length + 1) path

end Template

end JellyViews
