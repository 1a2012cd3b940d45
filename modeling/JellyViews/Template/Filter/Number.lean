/-
**Filters on numbers.**

Main definitions:

* `Template.readInteger`, `Template.readDouble` — the numbers that texts stand for;
* `Template.powerOfTen`, `Template.rounded` — rounding to decimal places;
* `Template.numberFilters` — the filters by name.
-/

import JellyViews.Template.Filter.Basic
import JellyViews.Template.Lexeme
import JellyViews.Text.Blank

set_option relaxedAutoImplicit false
set_option autoImplicit false

namespace JellyViews

namespace Template

/-! ### Reading numbers -/

/-- The letters with which a number of this base may be marked. -/
def baseMark : Nat → String
  | 2 => "0b"
  | 8 => "0o"
  | 16 => "0x"
  | _ => ""

/-- The integer of at most 64 bits that a sign and digits of the base stand for. -/
def wordOf? (base : Nat) (cs : List Char) : Option Int :=
  let (negative, digits) := Decimal.splitSign cs
  match Decimal.natOf? base digits with
  | some n =>
    let i : Int := if negative then -(n : Int) else (n : Int)
    if Lexeme.fitsWord i then some i else none
  | none => none

/-- The text of a number that is not finite, in small letters. -/
def unboundedOf? (cs : List Char) : Option Float :=
  let (negative, letters) := Decimal.splitSign cs
  match String.ofList (letters.map Char.toLower) with
  | "inf" => some (if negative then -1.0 / 0.0 else 1.0 / 0.0)
  | "infinity" => some (if negative then -1.0 / 0.0 else 1.0 / 0.0)
  | "nan" => some (0.0 / 0.0)
  | _ => none

/-- The double that a text stands for. -/
def readDouble (s : String) : Option Float := Decimal.read? s.toList <|> unboundedOf? s.toList

/-- The integer part of a double; a double beyond 64 bits counts as the nearest integer. -/
def integerPart (x : Float) : Int := x.toInt64.toInt

/-- The integer that a text stands for, with or without the mark of its base; a text with a point
stands for the integer part of its double. -/
def readInteger (base : Nat) (s : String) : Option Int :=
  let s := Text.trimStartOf (baseMark base) (Text.trim s)
  match wordOf? base s.toList with
  | some n => some n
  | none => if s.toList.contains '.' then (readDouble s).map integerPart else none

/-- The filter that makes integers. -/
def toInteger : Filter := fun v args => do
  let default ← wantArgument "int" .integer args "default"
  let base ← wantArgument "int" .shortCount args "base"
  match v with
  | .string s => return .int ((readInteger (base.getD 10) s).getD (default.getD 0))
  | .int n => return .int (integerPart (Float.ofInt n))
  | .float x => return .int (integerPart x)
  | _ => .error (.filter (.unconvertible "int"))

/-- The filter that makes doubles. -/
def toFloat : Filter := fun v args => do
  let default ← wantArgument "float" .double args "default"
  match v with
  | .string s => return ofDouble ((readDouble (Text.trim s)).getD (default.getD 0.0))
  | .int n => return .float (Float.ofInt n)
  | .float x => return .float x
  | _ => .error (.filter (.unconvertible "float"))

/-! ### Rounding -/

/-- A power of a double by repeated squaring: `acc · x^n`. -/
def powerFrom (acc x : Float) : Nat → Nat → Float
  | 0, _ => acc
  | fuel + 1, n =>
    let acc := if n % 2 = 1 then acc * x else acc
    if n / 2 = 0 then acc else powerFrom acc (x * x) fuel (n / 2)

/-- A power of ten. -/
def powerOfTen : Int → Float
  | .ofNat n => powerFrom 1.0 10.0 32 n
  | .negSucc n => 1.0 / powerFrom 1.0 10.0 32 (n + 1)

/-- The number rounded in a way of this name. -/
def roundingNamed : String → Option (Float → Float)
  | "common" => some Float.round
  | "ceil" => some Float.ceil
  | "floor" => some Float.floor
  | _ => none

/-- The number rounded to so many decimal places. -/
def rounded (how : Float → Float) (places : Int) (x : Float) : Float :=
  let scale := powerOfTen places
  how (scale * x) / scale

/-- The filter that rounds. -/
def rounding : Filter := fun v args => do
  let x ← wantValue "round" .double v
  let method ← wantArgument "round" .text args "method"
  let places ← wantArgument "round" .shortInteger args "precision"
  let method := method.getD "common"
  match roundingNamed method with
  | some how => return ofDouble (rounded how (places.getD 0) x)
  | none => .error (.filter (.unknownRounding method))

/-! ### Other filters -/

/-- The filter that takes a sign away. -/
def absolute : Filter := fun v _ =>
  match v with
  | .int n => .ok (.int n.natAbs)
  | .float x => .ok (.float x.abs)
  | _ => .error (.filter .unsigned)

/-- The distance from one up to which a number counts as one. -/
def oneTolerance : Float := 2.220446049250313e-16

/-- The filter that chooses an ending for a number of things. -/
def pluralizing : Filter := fun v args => do
  let x ← wantValue "pluralize" .double v
  let plural ← wantArgument "pluralize" .text args "plural"
  let singular ← wantArgument "pluralize" .text args "singular"
  return .string
    (if oneTolerance < (x.abs - 1.0).abs then plural.getD "s" else singular.getD "")

/-- The filters on numbers. -/
def numberFilters : List (String × Filter) :=
  [("int", toInteger), ("float", toFloat), ("round", rounding), ("abs", absolute),
   ("pluralize", pluralizing)]

end Template

end JellyViews
