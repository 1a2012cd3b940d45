/-
**Filters of the language.**

Of the filters that the language has, all but two are found here by their names.  Left out are
`date` and `filesizeformat`, with the formats of dates and of sizes; here they are names without a
meaning.

Main definitions:

* `Template.generalFilters` — the filters on values of more than one kind;
* `Template.standardFilter?` — the filter of a name.
-/

import JellyViews.Template.Filter.Array
import JellyViews.Template.Filter.Number
import JellyViews.Template.Filter.Text

set_option relaxedAutoImplicit false
set_option autoImplicit false

namespace JellyViews

namespace Template

/-- The filter for the number of items, fields or characters. -/
def measuring : Filter := fun v _ =>
  match v with
  | .array vs => .ok (.int vs.length)
  | .object fields => .ok (.int fields.length)
  | .string s => .ok (.int s.length)
  | _ => .error (.filter .lengthless)

/-- The filter that puts the last item or character first. -/
def reversing : Filter := fun v _ =>
  match v with
  | .array vs => .ok (.array vs.reverse)
  | .string s => .ok (.string (String.ofList s.toList.reverse))
  | w => .error (.filter (.irreversible w))

/-- The filter for the text of a value as data. -/
def encoding : Filter := fun v args => do
  let laidOut ← wantArgument "json_encode" .truth args "pretty"
  return .string (if laidOut.getD false then v.laidOut else v.compact)

/-- The filters on values of more than one kind. -/
def generalFilters : List (String × Filter) :=
  [("length", measuring), ("reverse", reversing), ("json_encode", encoding),
   ("as_str", fun v _ => .ok (.string (shown v)))]

/-- The filter of the language that has this name, if it is not one of the two. -/
def standardFilter? (name : String) : Option Filter :=
  (textFilters ++ numberFilters ++ arrayFilters ++ generalFilters).lookup name

end Template

end JellyViews
