/-
**Tests of the language.**

A test looks at the value of a variable, which may be undefined, and at values without names.  Of
the tests that the language has, `matching` is left out, with the patterns that it takes; here it is
a name without a meaning.

Main definitions:

* `Template.Test` — tests;
* `Template.standardTest?` — the test of a name.
-/

import JellyViews.Template.Fault.Test
import JellyViews.Template.Value

set_option relaxedAutoImplicit false
set_option autoImplicit false

namespace JellyViews

namespace Template

open Text

/-- A test: its outcome for the value of a variable and for arguments. -/
abbrev Test : Type := Option Json → List Json → Except TestFault Bool

/-- Refuses more than `most` arguments. -/
def atMost (test : String) (most : Nat) (args : List Json) : Except TestFault Unit :=
  if args.length ≤ most then .ok ()
  else if most = 0 then .error (.takesNone test)
  else .error (.tooMany test args.length most)

/-- The value of a variable that has to be defined. -/
def definedValue (test : String) : Option Json → Except TestFault Json
  | some v => .ok v
  | none => .error (.undefined test)

/-- A test of the kind of a value. -/
def kindTest (test : String) (holds : Json → Bool) : String × Test :=
  (test, fun v args => do
    atMost test 0 args
    let v ← definedValue test v
    return holds v)

/-- The double of a value that has to be a number. -/
def numberOr (fault : TestFault) (v : Option Json) : Except TestFault Float :=
  match v with
  | some (.int n) => .ok (Float.ofInt n)
  | some (.float x) => .ok x
  | _ => .error fault

/-- The text of a value that has to be one. -/
def textOr (fault : TestFault) (v : Option Json) : Except TestFault String :=
  match v with
  | some (.string s) => .ok s
  | _ => .error fault

/-- Whether a double is a multiple of another: the two have a quotient without a rest. -/
def isMultiple (x y : Float) : Bool := (x / y).floor * y == x && y != 0.0

/-- Whether a number is not a multiple of two. -/
def isOdd (v : Option Json) (args : List Json) : Except TestFault Bool := do
  atMost "odd" 0 args
  let v ← definedValue "odd" v
  let x ← numberOr (.wrongVariable "odd" "number") (some v)
  return !isMultiple x 2.0

/-- Whether a number is a multiple of another. -/
def isDivisible (v : Option Json) (args : List Json) : Except TestFault Bool := do
  atMost "divisibleby" 1 args
  let v ← definedValue "divisibleby" v
  let x ← numberOr (.wrongVariable "divisibleby" "number") (some v)
  let y ← numberOr (.wrongArgument "divisibleby" "number") args.head?
  return isMultiple x y

/-- A test of a text by another. -/
def textTest (test : String) (holds : String → String → Bool) : String × Test :=
  (test, fun v args => do
    atMost test 1 args
    let v ← definedValue test v
    let s ← textOr (.wrongVariable test "string") (some v)
    let part ← textOr (.wrongArgument test "string") args.head?
    return holds part s)

/-- Whether a value has a part. -/
def isContaining (v : Option Json) (args : List Json) : Except TestFault Bool := do
  atMost "containing" 1 args
  match (← definedValue "containing" v) with
  | .string s =>
    let part ← textOr (.wrongArgument "containing" "string") args.head?
    return occursIn part s
  | .array vs => return args.head?.any fun w => vs.contains w
  | .object fields =>
    let key ← textOr (.wrongArgument "containing" "string") args.head?
    return (fields.lookup key).isSome
  | _ => .error (.partless "containing")

/-- Whether the value is a text. -/
def isText : Json → Bool
  | .string _ => true
  | _ => false

/-- Whether the value is an object. -/
def isObject : Json → Bool
  | .object _ => true
  | _ => false

/-- Whether the value has items or fields. -/
def isIterable : Json → Bool
  | .array _ => true
  | .object _ => true
  | _ => false

/-- Tests of the language, by name. -/
def standardTests : List (String × Test) :=
  [("defined", fun v args => do atMost "defined" 0 args; return v.isSome),
   ("undefined", fun v args => do atMost "undefined" 0 args; return v.isNone),
   ("odd", isOdd),
   ("even", fun v args => do
     atMost "even" 0 args
     let w ← definedValue "even" v
     let odd ← isOdd (some w) args
     return !odd),
   ("divisibleby", isDivisible),
   kindTest "string" isText,
   kindTest "number" isNumber,
   kindTest "iterable" isIterable,
   kindTest "object" isObject,
   textTest "starting_with" begins,
   textTest "ending_with" ends,
   ("containing", isContaining)]

/-- The test of the language that has this name, if it is one of those above. -/
def standardTest? (name : String) : Option Test := standardTests.lookup name

end Template

end JellyViews
