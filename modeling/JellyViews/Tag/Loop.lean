/-
**Loops.**

A loop element is written once, with its body once inside: the view runs the loop later.  The body
is given the variable that the element declares.

`for_each` loops over a collection.  `options_for` loops over the options of a choice: it writes one
option, marked as selected when its value is the selected one, and then the body.

Main definitions:

* `Tag.Loop.overItems` — what `for_each` writes;
* `Tag.Loop.overOptions` — what `options_for` writes.
-/

import JellyViews.Tag.Call
import JellyViews.Tag.Form

set_option relaxedAutoImplicit false
set_option autoImplicit false

namespace JellyViews

namespace Tag

namespace Loop

/-! ### The two loops -/

/-- The name of the loop over a collection. -/
def itemsName : String := "for_each"

/-- The name of the loop over options. -/
def optionsName : String := "options_for"

/-- The element that both write. -/
def element : String := "j:forEach"

/-- The attributes of the element: the variable, the collection, and what is left of the call. -/
def attributes (var items : String) (rest : Call) : Attributes :=
  ((Attributes.single "var" var).insert "items" items).merge rest.args

/-- The loop over a collection: `items` is required, `var` names the variable. -/
def overItems (call : Call) : Except TagError Form := do
  let (items, call) ← call.require itemsName "items"
  let (var, call) := call.takeOr "var" Expression.loopVar
  return .around element (attributes var (Expression.collection items) call) ⟨some var⟩ none

/-- The selected value.  An explicit one is a complete expression, with markers or without, and is
never looked up under another name; without one, the field is meant. -/
def selectedOf (explicit field : Option String) : Except TagError String :=
  match explicit, field with
  | some s, _ => .ok (Expression.wrap (Expression.stripMarkers s))
  | none, some f => .ok f
  | none, none => .error (.missingArgument optionsName "field")

/-- The loop over options: `items` and one of `selected` and `field` are required, `var` names the
variable and `value` the property that tells options apart. -/
def overOptions (call : Call) : Except TagError Form := do
  let (items, call) ← call.require optionsName "items"
  let (field, call) := call.take "field"
  let (explicit, call) := call.take "selected"
  let selected ← selectedOf explicit field
  let (var, call) := call.takeOr "var" Expression.optionVar
  let (value, call) := call.takeOr "value" Expression.optionValue
  let selection := Selection.of items selected var value
  return .around element (attributes var selection.items call) ⟨some var⟩ (some selection)

end Loop

end Tag

end JellyViews
