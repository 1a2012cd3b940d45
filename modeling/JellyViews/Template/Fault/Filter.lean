/-
**Why a filter cannot be applied.**

Main definitions:

* `Template.FilterFault` — the causes;
* `Template.FilterFault.message` — their texts.
-/

import JellyViews.Json.Value
import JellyViews.Text.Quoted

set_option relaxedAutoImplicit false
set_option autoImplicit false

namespace JellyViews

namespace Template

open Text

/-- A cause for which a filter gives no value. -/
inductive FilterFault where
  /-- The filtered value is not of the form that the filter wants. -/
  | wrongValue (filter : String) (value : Json) (wanted : String)
  /-- An argument is not of the form that the filter wants. -/
  | wrongArgument (filter arg : String) (value : Json) (wanted : String)
  /-- The filter was expecting an argument. -/
  | expected (filter arg : String)
  /-- The filter has to have an argument. -/
  | lacking (filter article arg : String)
  /-- The value cannot be made a number. -/
  | unconvertible (filter : String)
  /-- The value has no absolute value. -/
  | unsigned
  /-- The value has no length. -/
  | lengthless
  /-- The value has no other end. -/
  | irreversible (value : Json)
  | unknownRounding (method : String)
  /-- The value has no keys. -/
  | keyless
  | unknownKey (key : String)
  /-- The items have no such part. -/
  | unknownPart (path : String)
  /-- Items of this kind have no order. -/
  | unordered (kind : String)
  /-- Items of this kind are not told apart. -/
  | indistinct (message : String)
  /-- The items are of different kinds. -/
  | mixed
  /-- An item is of another kind than the first one. -/
  | otherKind (kind : String) (value : Json)

/-- The text of a cause. -/
def FilterFault.message : FilterFault → String
  | wrongValue filter value wanted =>
    "Filter " ++ backquoted filter ++ " was called on an incorrect value: got " ++
      backquoted value.compact ++ " but expected a " ++ wanted
  | wrongArgument filter arg value wanted =>
    "Filter " ++ backquoted filter ++ " received an incorrect type for arg " ++ backquoted arg ++
      ": got " ++ backquoted value.compact ++ " but expected a " ++ wanted
  | expected filter arg =>
    "Filter " ++ backquoted filter ++ " expected an arg called " ++ backquoted arg
  | lacking filter article arg =>
    "The " ++ backquoted filter ++ " filter has to have " ++ article ++ " " ++ backquoted arg ++
      " argument"
  | unconvertible filter => "Filter " ++ backquoted filter ++ " received an unexpected type"
  | unsigned => "Filter " ++ backquoted "abs" ++ " was used on a value that isn't a number."
  | lengthless =>
    "Filter " ++ backquoted "length" ++
      " was used on a value that isn't an array, an object, or a string."
  | irreversible value =>
    "Filter " ++ backquoted "reverse" ++ " received an incorrect type for arg " ++
      backquoted "value" ++ ": got " ++ backquoted value.compact ++ " but expected Array|String"
  | unknownRounding method =>
    "Filter " ++ backquoted "round" ++ " received an incorrect value for arg " ++
      backquoted "method" ++ ": got " ++ backquoted (quoted method) ++
      ", only common, ceil and floor are allowed"
  | keyless => "Filter " ++ backquoted "get" ++ " was used on a value that isn't an object"
  | unknownKey key =>
    "Filter " ++ backquoted "get" ++ " tried to get key " ++ backquoted key ++
      " but it wasn't found"
  | unknownPart path => "attribute '" ++ path ++ "' does not reference a field"
  | unordered kind => kind ++ " is not a sortable value"
  | indistinct message => message
  | mixed => "unique filter can't compare multiple types"
  | otherKind kind value => "expected " ++ kind ++ " got " ++ value.compact

end Template

end JellyViews
