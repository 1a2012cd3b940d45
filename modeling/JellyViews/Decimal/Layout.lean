/-
**Writing and reading numbers.**

The digits of a number come from `Decimal/Shortest.lean`; a `Layout` says how they are set out.  The
library knows two layouts: attribute values never use an exponent and leave whole numbers without
a point; data values mark whole numbers with `.0` and use an exponent outside `10⁻⁵ ≤ |x| < 10¹⁶`.

Main definitions:

* `Decimal.Layout`, `Decimal.Layout.write` — how digits are set out, and the text of a double;
* `Decimal.attributeLayout`, `Decimal.dataLayout` — the two layouts in use;
* `Decimal.read?` — the double that a decimal text denotes.
-/

import JellyViews.Decimal.Shortest

set_option relaxedAutoImplicit false
set_option autoImplicit false

namespace JellyViews

namespace Decimal

/-! ### Writing -/

/-- How the digits of a number are set out.  A number whose leading digit has the place `10^e` is
written positionally when `positional e` holds and with an exponent otherwise. -/
structure Layout where
  positional : Int → Bool
  wholeEnd : String
  exponentMark : String
  exponentPlus : String
  nan : String
  infinity : String

/-- Decimal digits of a natural number. -/
def digitsOf (n : Nat) : String := String.ofList (Nat.toDigits 10 n)

/-- The text of an integer. -/
def ofInt : Int → String
  | .ofNat n => digitsOf n
  | .negSucc n => "-" ++ digitsOf (n + 1)

/-- A row of `n` zeros. -/
def zeros (n : Nat) : String := String.ofList (List.replicate n '0')

/-- Digits set out around the decimal point. -/
def Layout.positionally (l : Layout) (d : Digits) : String :=
  let ds := Nat.toDigits 10 d.coefficient
  match d.exponent with
  | .ofNat x => String.ofList ds ++ (if d.coefficient = 0 then "" else zeros x) ++ l.wholeEnd
  | .negSucc x =>
    let places := x + 1
    if places < ds.length then
      String.ofList (ds.take (ds.length - places)) ++ "." ++
        String.ofList (ds.drop (ds.length - places))
    else "0." ++ zeros (places - ds.length) ++ String.ofList ds

/-- Digits with the point after the first one, and an exponent. -/
def Layout.scientifically (l : Layout) (d : Digits) : String :=
  let ds := Nat.toDigits 10 d.coefficient
  let e : Int := d.exponent + (ds.length : Int) - 1
  let lead := String.ofList (ds.take 1) ++
    (if ds.length = 1 then "" else "." ++ String.ofList (ds.drop 1))
  lead ++ l.exponentMark ++ (if 0 ≤ e then l.exponentPlus else "") ++ ofInt e

/-- The text of a coefficient and a power of ten. -/
def Layout.writeDigits (l : Layout) (d : Digits) : String :=
  let e : Int := d.exponent + ((Nat.toDigits 10 d.coefficient).length : Int) - 1
  if d.coefficient = 0 || l.positional e then l.positionally d else l.scientifically d

/-- The text of what a bit pattern stands for. -/
def Layout.writeReading (l : Layout) : Reading → String
  | .nan => l.nan
  | .infinite negative => (if negative then "-" else "") ++ l.infinity
  | .finite b =>
    (if b.negative then "-" else "") ++ l.writeDigits (shortest b.mantissa b.exponent)

/-- The text of a double. -/
def Layout.write (l : Layout) (x : Float) : String := l.writeReading (Reading.ofBits x.toBits)

/-- Attribute values: every digit is written out, and a whole number has no point. -/
def attributeLayout : Layout :=
  { positional := fun _ => true
    wholeEnd := ""
    exponentMark := "e"
    exponentPlus := ""
    nan := "NaN"
    infinity := "inf" }

/-- Data values: a whole number ends in `.0`; very small and very large numbers get an exponent. -/
def dataLayout : Layout :=
  { positional := fun e => decide (-5 ≤ e ∧ e < 16)
    wholeEnd := ".0"
    exponentMark := "e"
    exponentPlus := "+"
    nan := "null"
    infinity := "null" }

/-! ### Reading -/

/-- The number that a row of digits denotes; `none` if a character is no digit of the base. -/
def digitValue? (base : Nat) (c : Char) : Option Nat :=
  let v :=
    if '0' ≤ c ∧ c ≤ '9' then some (c.toNat - '0'.toNat)
    else if 'a' ≤ c ∧ c ≤ 'z' then some (c.toNat - 'a'.toNat + 10)
    else if 'A' ≤ c ∧ c ≤ 'Z' then some (c.toNat - 'A'.toNat + 10)
    else none
  match v with
  | some n => if n < base then some n else none
  | none => none

/-- The number that a non-empty row of digits denotes. -/
def natOf? (base : Nat) : List Char → Option Nat
  | [] => none
  | c :: cs => (c :: cs).foldlM (fun acc d => (digitValue? base d).map (acc * base + ·)) 0

/-- Splits a sign off a text. -/
def splitSign : List Char → Bool × List Char
  | '-' :: cs => (true, cs)
  | '+' :: cs => (false, cs)
  | cs => (false, cs)

/-- The double nearest to `coefficient · 10^exponent`, for a coefficient of `count` digits. -/
def nearest (coefficient : Nat) (count : Nat) (exponent : Int) : Float :=
  if coefficient = 0 then 0.0
  else if 400 < exponent + (count : Int) then 1.0 / 0.0
  else if exponent + (count : Int) < -400 then 0.0
  else
    match exponent with
    | .ofNat e => Float.ofScientific coefficient false e
    | .negSucc e => Float.ofScientific coefficient true (e + 1)

/-- The exponent at the end of a decimal text: absent, or a mark, a sign and digits. -/
def exponentOf? : List Char → Option Int
  | [] => some 0
  | c :: cs =>
    if c = 'e' ∨ c = 'E' then
      let (negative, ds) := splitSign cs
      (natOf? 10 ds).map fun n => if negative then -(n : Int) else (n : Int)
    else none

/-- The double that a text denotes: a sign, digits with at most one point among them or at an end,
and an exponent. -/
def read? (text : List Char) : Option Float :=
  let (negative, body) := splitSign text
  let whole := body.takeWhile Char.isDigit
  let rest := body.dropWhile Char.isDigit
  let (fraction, tail) :=
    match rest with
    | '.' :: r => (r.takeWhile Char.isDigit, r.dropWhile Char.isDigit)
    | r => ([], r)
  match natOf? 10 (whole ++ fraction), exponentOf? tail with
  | some n, some e =>
    let significant := (whole ++ fraction).dropWhile (· == '0')
    let x := nearest n significant.length (e - (fraction.length : Int))
    some (if negative then -x else x)
  | _, _ => none

end Decimal

end JellyViews
