/-
**Values in templates.**

A template shows values, takes them for conditions, compares them, and hands them to filters, which
want them in a certain form.

Main definitions:

* `Template.shown` — the text that an output tag writes for a value;
* `Template.isTruthy`, `Template.valuesEqual` — values as conditions, and their equality;
* `Template.Form` — a form in which a value can be wanted;
* `Template.part?` — a part of a value.
-/

import JellyViews.Json.Value
import JellyViews.Text.Occurrence

set_option relaxedAutoImplicit false
set_option autoImplicit false

namespace JellyViews

namespace Template

/-! ### Texts and conditions -/

mutual

/-- The text that an output tag writes for a value. -/
def shown : Json → String
  | .null => ""
  | .bool b => Json.boolText b
  | .int n => Decimal.ofInt n
  | .float x => Decimal.attributeLayout.write x
  | .string s => s
  | .array items => "[" ++ String.intercalate ", " (shownItems items) ++ "]"
  | .object _ => "[object]"

/-- The texts of the items of an array. -/
def shownItems : List Json → List String
  | [] => []
  | v :: vs => shown v :: shownItems vs

end

/-- Whether a value counts as true: it is not null, zero, empty or false. -/
def isTruthy : Json → Bool
  | .null => false
  | .bool b => b
  | .int n => n != 0
  | .float x => x != 0.0 && x == x
  | .string s => s != ""
  | .array items => !items.isEmpty
  | .object fields => !fields.isEmpty

/-! ### Numbers -/

/-- Whether the value is a number. -/
def isNumber : Json → Bool
  | .int _ => true
  | .float _ => true
  | _ => false

/-- The double of a number. -/
def toDouble : Json → Float
  | .int n => Float.ofInt n
  | .float x => x
  | _ => 0.0

/-- The value of a double: null for one that is not finite. -/
def ofDouble (x : Float) : Json := if x.isFinite then .float x else .null

/-- Whether two values are equal: numbers by their doubles. -/
def valuesEqual (l r : Json) : Bool :=
  if isNumber l && isNumber r then toDouble l == toDouble r else l == r

/-! ### Wanted forms -/

/-- A form in which a value can be wanted: its name in reports, and how to read it. -/
structure Form (α : Type) where
  name : String
  read : Json → Option α

namespace Form

/-- The integer of a value, if it lies between two bounds. -/
def integerBetween (low high : Int) : Json → Option Int
  | .int n => if low ≤ n ∧ n ≤ high then some n else none
  | _ => none

/-- A text. -/
def text : Form String where
  name := "String"
  read
    | .string s => some s
    | _ => none

/-- A truth value. -/
def truth : Form Bool where
  name := "bool"
  read
    | .bool b => some b
    | _ => none

/-- An integer without a sign. -/
def count : Form Nat where
  name := "usize"
  read v := (integerBetween 0 0xFFFFFFFFFFFFFFFF v).map Int.toNat

/-- A short integer without a sign. -/
def shortCount : Form Nat where
  name := "u32"
  read v := (integerBetween 0 0xFFFFFFFF v).map Int.toNat

/-- An integer with a sign. -/
def integer : Form Int where
  name := "i64"
  read := integerBetween (-0x8000000000000000) 0x7FFFFFFFFFFFFFFF

/-- A short integer with a sign. -/
def shortInteger : Form Int where
  name := "i32"
  read := integerBetween (-0x80000000) 0x7FFFFFFF

/-- A number. -/
def double : Form Float where
  name := "f64"
  read v := if isNumber v then some (toDouble v) else none

/-- An array. -/
def items : Form (List Json) where
  name := "Vec<Value>"
  read
    | .array vs => some vs
    | _ => none

end Form

/-! ### Parts -/

/-- The part of a value that a name leads to: a field of an object, or an item of an array. -/
def step? (v : Json) (name : String) : Option Json :=
  match v with
  | .object fields => fields.lookup name
  | .array vs =>
    match Decimal.natOf? 10 name.toList with
    | some n => vs[n]?
    | none => none
  | _ => none

/-- The part of a value that a path leads to: names with dots between them. -/
def part? (v : Json) (path : String) : Option Json := (Text.split "." path).foldlM step? v

end Template

end JellyViews
