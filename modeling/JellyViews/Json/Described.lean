/-
**Values with their kinds.**

In a report a value can be shown together with the name of its kind.

Main definitions:

* `Json.described` — the text of a value with the kinds of its parts.
-/

import JellyViews.Json.Value
import JellyViews.Text.Quoted

set_option relaxedAutoImplicit false
set_option autoImplicit false

namespace JellyViews

namespace Json

mutual

/-- The text of a value with the kinds of its parts. -/
def described : Json → String
  | null => "Null"
  | bool b => "Bool(" ++ boolText b ++ ")"
  | int n => "Number(" ++ Decimal.ofInt n ++ ")"
  | float x => "Number(" ++ Decimal.dataLayout.write x ++ ")"
  | string s => "String(" ++ Text.quoted s ++ ")"
  | array items => "Array [" ++ String.intercalate ", " (describedItems items) ++ "]"
  | object fields => "Object \x7b" ++ String.intercalate ", " (describedFields fields) ++ "\x7d"

/-- The texts of the items of an array. -/
def describedItems : List Json → List String
  | [] => []
  | v :: vs => described v :: describedItems vs

/-- The texts of the fields of an object. -/
def describedFields : List (String × Json) → List String
  | [] => []
  | (k, v) :: fs => (Text.quoted k ++ ": " ++ described v) :: describedFields fs

end

end Json

end JellyViews
