/-
**Form inputs bound to a field.**

A field tag writes one input of a form.  Its `name` names the field, and one further attribute
shows the field's value: the value that the call gives, or else the expression that looks the field
up (`Expression.boundValue`).

Main definitions:

* `Tag.Field` — a field tag;
* `Tag.Field.attributes` — the attributes that it writes for a call.
-/

import JellyViews.Naming
import JellyViews.Tag.Call
import JellyViews.Tag.Form

set_option relaxedAutoImplicit false
set_option autoImplicit false

namespace JellyViews

namespace Tag

/-- A form input: its name in templates, its element, the attribute that shows the value, and
attributes that every call gets. -/
structure Field where
  name : String
  element : String
  valueAttr : String
  defaults : Attributes

namespace Field

/-- The argument that names the field. -/
def nameArg : String := "name"

/-- A field tag whose element is its name in camel case, among the form elements. -/
def named (name valueAttr : String) : Field :=
  ⟨name, Naming.elementName Naming.formNamespace name, valueAttr, ∅⟩

/-- The name, the value, the defaults that are neither, and on top what is left of the call. -/
def attributes (f : Field) (call : Call) : Except TagError Attributes := do
  let (field, call) ← call.require f.name nameArg
  let (value, call) := call.takeOr f.valueAttr (Expression.boundValue field)
  let own := (Attributes.single nameArg field).insert f.valueAttr value
  return (own.fill f.defaults).merge call.args

/-- What the tag writes for a call: an element without content, so a body is refused before the
arguments are looked at. -/
def form (f : Field) (call : Call) (hasBody : Bool) : Except TagError Form := do
  if hasBody then throw (.unexpectedBody f.name)
  return .void f.element (← f.attributes call)

end Field

end Tag

end JellyViews
