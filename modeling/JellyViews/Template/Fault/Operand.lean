/-
**Why an operation has no result.**

Main definitions:

* `Template.OperandFault` — the causes;
* `Template.OperandFault.message` — their texts.
-/

import JellyViews.Decimal.Layout
import JellyViews.Text.Quoted

set_option relaxedAutoImplicit false
set_option autoImplicit false

namespace JellyViews

namespace Template

open Text

/-- A cause for which an operation on the values of terms has no result. -/
inductive OperandFault where
  /-- The value of a variable is no number. -/
  | variable (path : String)
  /-- The value of a function is no number. -/
  | function (name : String)
  | text (s : String)
  | bool (b : Bool)
  /-- Joined texts, given as they are written. -/
  | joined (source : String)
  | test (name : String)
  /-- The value of another term is no number. -/
  | other
  /-- The result of an operation on integers needs more than 64 bits. -/
  | outOfBounds (sign : String) (l r : Int)
  /-- A remainder for a divisor of zero. -/
  | noRemainder (l r : String)
  /-- A comparison with a result that is no number. -/
  | incomparable
  /-- The value of a function is no truth value. -/
  | undecided (name : String)
  /-- Something other than a text was looked for in a text or among the keys of an object. -/
  | notFindable (what place : String)
  /-- Something was looked for in a value without parts. -/
  | partless

/-- The text of a cause. -/
def OperandFault.message : OperandFault → String
  | .variable path =>
    "Variable " ++ backquoted path ++ " was used in a math operation but is not a number"
  | .function name =>
    "Function " ++ backquoted name ++
      " was used in a math operation but is not returning a number"
  | .text s => "Tried to do math with a string: " ++ backquoted s
  | .bool b => "Tried to do math with a boolean: " ++ backquoted (if b then "true" else "false")
  | .joined source => "Tried to do math with a string concatenation: " ++ source
  | .test name => "Tried to do math with a test: " ++ name
  | .other => "Tried to do math with an expression not resulting in a number"
  | .outOfBounds sign l r =>
    Decimal.ofInt l ++ " " ++ sign ++ " " ++ Decimal.ofInt r ++ " results in an out of bounds i64"
  | .noRemainder l r => "Tried to do a modulo by zero: " ++ l ++ "/" ++ r
  | .incomparable => "Comparison to NaN"
  | .undecided name =>
    "Function " ++ backquoted name ++
      " was used in a logic operation but is not returning a bool"
  | .notFindable what place =>
    "Tried to check if " ++ what ++ " is in a " ++ place ++ ", but it isn't a string"
  | .partless => "The " ++ backquoted "in" ++ " operator only supports strings, arrays and objects."

end Template

end JellyViews
