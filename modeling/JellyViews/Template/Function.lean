/-
**Functions of the language.**

These are the functions whose values depend on their arguments alone, which are two of the five that
the language has.  Left out are `now`, `get_random` and `get_env`, which look at the time, at chance
and at the surroundings of the program; here they are names without a meaning.

Main definitions:

* `Template.Callee` — functions of named values;
* `Template.throwing` — giving up with a message;
* `Template.ranging` — the numbers from a start to an end;
* `Template.standardFunction?` — the function of a name.
-/

import JellyViews.Template.Filter.Basic

set_option relaxedAutoImplicit false
set_option autoImplicit false

namespace JellyViews

namespace Template

/-- A function: its value for named arguments. -/
abbrev Callee : Type := Values → Except Fault Json

/-- The function that gives up. -/
def throwing : Callee := fun args =>
  match args.lookup "message" with
  | some (.string s) => .error (.thrown s)
  | some v => .error (.thrownValue v)
  | none => .error .thrownNothing

/-- A bound of a range, if it is given. -/
def bound (args : Values) (arg shownAs : String) : Except Fault (Option Nat) :=
  match args.lookup arg with
  | none => .ok none
  | some v =>
    match Form.count.read v with
    | some n => .ok (some n)
    | none => .error (.wrongBound arg shownAs v)

/-- The numbers from `first` to below `last` at a distance of `step`, of which there are at most
`fuel`. -/
def numbersFrom (last step : Nat) : Nat → Nat → List Json
  | 0, _ => []
  | fuel + 1, first =>
    if first < last then .int first :: numbersFrom last step fuel (first + step) else []

/-- The function for the numbers from a start to an end. -/
def ranging : Callee := fun args => do
  let first ← bound args "start" "start"
  let step ← bound args "step_by" "step"
  match (← bound args "end" "end") with
  | none => .error .endless
  | some last =>
    let first := first.getD 0
    if last < first then .error .backwards
    else
      let step := max 1 (step.getD 1)
      return .array (numbersFrom last step ((last - first) / step + 1) first)

/-- The function of the language that has this name, if it is one of those above. -/
def standardFunction? : String → Option Callee
  | "throw" => some throwing
  | "range" => some ranging
  | _ => none

end Template

end JellyViews
