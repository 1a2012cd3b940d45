/-
**Scalars as values.**

A plain scalar without a tag is null, a truth value, a number or a text, by its form.  A tag can
force one of the four.  Integers are decimal, or have one of the bases 16, 8 and 2; a decimal
integer with a leading zero is a text.  An integer needs 64 bits to be kept as an integer; a
larger one of up to 64 bits without sign is kept as a double, and one of up to 128 bits is
refused.

Main definitions:

* `Extension.integer?`, `Extension.double?` — the numbers;
* `Extension.plainValue` — the value of a plain scalar;
* `Extension.scalarValue` — the value of a scalar with its tag.
-/

import JellyViews.Extension.Definition
import JellyViews.Yaml.Node

set_option relaxedAutoImplicit false
set_option autoImplicit false

namespace JellyViews

namespace Extension

/-! ### Null and truth -/

/-- Whether the text is a null. -/
def isNull (s : String) : Bool := s == "null" || s == "Null" || s == "NULL" || s == "~"

/-- The truth value of a text. -/
def truth? (s : String) : Option Bool :=
  if s = "true" ∨ s = "True" ∨ s = "TRUE" then some true
  else if s = "false" ∨ s = "False" ∨ s = "FALSE" then some false
  else none

/-! ### Integers -/

/-- Whether the text is a row of digits that starts with a zero, with or without a sign; such a row
is no number. -/
def hasLeadingZero (cs : List Char) : Bool :=
  match (Decimal.splitSign cs).2 with
  | '0' :: c :: ds => (c :: ds).all Char.isDigit
  | _ => false

/-- The number behind the mark of a base. -/
def based? : List Char → Option Nat
  | '0' :: 'x' :: ds => Decimal.natOf? 16 ds
  | '0' :: 'o' :: ds => Decimal.natOf? 8 ds
  | '0' :: 'b' :: ds => Decimal.natOf? 2 ds
  | _ => none

/-- The number of digits in base ten or behind the mark of another base. -/
def magnitude? (ds : List Char) : Option Nat :=
  match based? ds with
  | some n => some n
  | none => if hasLeadingZero ds then none else Decimal.natOf? 10 ds

/-- The integer of a text: a sign, and digits in one of the bases. -/
def integer? (cs : List Char) : Option Int :=
  match cs with
  | '-' :: ds => (magnitude? ds).map fun n => -(n : Int)
  | '+' :: ds => (magnitude? ds).map fun n => (n : Int)
  | ds => (magnitude? ds).map fun n => (n : Int)

/-- What an integer becomes. -/
inductive IntegerRole where
  /-- It is kept as an integer. -/
  | kept
  /-- It is kept as a double. -/
  | widened
  /-- It is refused. -/
  | refused
  /-- It is too large to be an integer at all. -/
  | none
deriving DecidableEq

/-- The number of integers of so many bits. -/
def wordCount (bits : Nat) : Int := (Nat.pow 2 bits : Nat)

/-- The role of an integer, by its size. -/
def integerRole (n : Int) : IntegerRole :=
  if -wordCount 63 ≤ n ∧ n < wordCount 63 then .kept
  else if 0 ≤ n ∧ n < wordCount 64 then .widened
  else if -wordCount 127 ≤ n ∧ n < wordCount 128 then .refused
  else .none

/-! ### Doubles -/

/-- The infinities and the value that is no number, by their texts. -/
def special? (s : String) : Option Float :=
  if s = ".inf" ∨ s = ".Inf" ∨ s = ".INF" ∨ s = "+.inf" ∨ s = "+.Inf" ∨ s = "+.INF" then
    some (1.0 / 0.0)
  else if s = "-.inf" ∨ s = "-.Inf" ∨ s = "-.INF" then some (-1.0 / 0.0)
  else if s = ".nan" ∨ s = ".NaN" ∨ s = ".NAN" then some (0.0 / 0.0)
  else none

/-- The double of a text: a special one, or a decimal that is not too large. -/
def double? (s : String) : Option Float :=
  match special? s with
  | some x => some x
  | none =>
    match Decimal.read? s.toList with
    | some x => if x.isFinite then some x else none
    | none => none

/-! ### Scalars -/

/-- What a scalar is read as. -/
inductive Reading where
  | null
  | value (v : DefaultValue)
  /-- It cannot be read. -/
  | refused

/-- The reading of an integer. -/
def readInteger (n : Int) (otherwise : Reading) : Reading :=
  match integerRole n with
  | .kept => .value (.int n)
  | .widened => .value (.float (Float.ofInt n))
  | .refused => .refused
  | .none => otherwise

/-- The reading of a text as a double, or else as it is. -/
def readDouble (s : String) : Reading :=
  if hasLeadingZero s.toList then .value (.text s)
  else
    match double? s with
    | some x => .value (.float x)
    | none => .value (.text s)

/-- The reading of a plain scalar. -/
def plainValue (s : String) : Reading :=
  if s = "" ∨ isNull s then .null
  else
    match truth? s with
    | some b => .value (.bool b)
    | none =>
      match integer? s.toList with
      | some n => readInteger n (readDouble s)
      | none => readDouble s

/-- The full form of a tag of the language itself. -/
def coreTag (name : String) : String := "tag:yaml.org,2002:" ++ name

/-- Whether a tag belongs to the stream alone. -/
def isLocalTag (tag : String) : Bool := tag.toList.head? == some '!'

/-- The reading of a scalar whose tag forces it. -/
def forced (tag s : String) : Reading :=
  if tag = coreTag "bool" then
    match truth? s with
    | some b => .value (.bool b)
    | none => .refused
  else if tag = coreTag "int" then
    match integer? s.toList with
    | some n => readInteger n .refused
    | none => .refused
  else if tag = coreTag "float" then
    match double? s with
    | some x => .value (.float x)
    | none => .refused
  else if tag = coreTag "null" then if isNull s then .null else .refused
  else if isLocalTag tag then .refused
  else .value (.text s)

/-- The reading of a scalar. -/
def scalarValue (tag : Option String) (plain : Bool) (s : String) : Reading :=
  match tag with
  | some t => forced t s
  | none => if plain then plainValue s else .value (.text s)

end Extension

end JellyViews
