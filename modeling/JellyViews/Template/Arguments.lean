/-
**Template values as tag arguments.**

A tag takes texts.  A template passes values: texts, numbers and truth values have a text, and null,
arrays and objects have none.  Templates pass arguments without an order, so a call lists them by
name.

Main definitions:

* `Template.attributeValue` — the text of a value, or why it has none;
* `Template.callOf` — the call of named values.
-/

import JellyViews.Json.Value
import JellyViews.Tag.Call

set_option relaxedAutoImplicit false
set_option autoImplicit false

namespace JellyViews

namespace Template

open Tag

/-- The text of an argument value. -/
def attributeValue (tag key : String) : Json → Except TagError String
  | .string s => .ok s
  | .int n => .ok (Decimal.ofInt n)
  | .float x => .ok (Decimal.dataLayout.write x)
  | .bool b => .ok (Json.boolText b)
  | .null => .error (.invalidAttributeValue tag key "null")
  | .array _ => .error (.invalidAttributeValue tag key "array")
  | .object _ => .error (.invalidAttributeValue tag key "object")

/-- Adds arguments to a call, up to the first value without a text. -/
def addArguments (tag : String) : Call → List (String × Json) → Except TagError Call
  | call, [] => .ok call
  | call, (key, value) :: rest =>
    match attributeValue tag key value with
    | .ok text => addArguments tag (call.arg key text) rest
    | .error e => .error e

/-- The call of named values, with the arguments in the order of their names. -/
def callOf (tag : String) (args : OrderedMap String Json) : Except TagError Call :=
  addArguments tag ∅ (args.sortBy fun a b => decide (a ≤ b)).entries

end Template

end JellyViews
