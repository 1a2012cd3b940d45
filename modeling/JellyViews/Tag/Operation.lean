/-
**Tag operations.**

Templates call operations by name; each writes one element.  There are four kinds: form inputs,
elements with parameters, and the two loops.  An operation first settles its form (`Tag/Form.lean`),
so a call that it refuses leaves no trace in the output.

Main definitions:

* `Tag.Operation` — an operation, with its name, element and shape;
* `Tag.Operation.form` — what it writes for a call, or why it refuses;
* `Tag.Operation.emit` — writing it.
-/

import JellyViews.Tag.Element
import JellyViews.Tag.Field
import JellyViews.Tag.Loop

set_option relaxedAutoImplicit false
set_option autoImplicit false

namespace JellyViews

namespace Tag

open Markup

/-- An operation that templates may call. -/
inductive Operation where
  | field (f : Field)
  | element (e : Element)
  | forEach
  | optionsFor

namespace Operation

/-- The name by which templates call the operation. -/
def name : Operation → String
  | field f => f.name
  | element e => e.name
  | forEach => Loop.itemsName
  | optionsFor => Loop.optionsName

/-- The element that the operation writes. -/
def elementName : Operation → String
  | field f => f.element
  | element e => e.element
  | forEach => Loop.element
  | optionsFor => Loop.element

/-- The shape of the element. -/
def shape : Operation → Shape
  | field _ => .void
  | element e => e.shape
  | forEach => .iteration
  | optionsFor => .iteration

/-- Whether the operation takes a body. -/
def acceptsBody (op : Operation) : Bool := op.shape.acceptsBody

/-- What the operation writes for a call. -/
def form (op : Operation) (call : Call) (hasBody : Bool) : Except TagError Form :=
  match op with
  | field f => f.form call hasBody
  | element e => e.form call hasBody
  | forEach => Loop.overItems call
  | optionsFor => Loop.overOptions call

/-- Writes the element of a call around a body. -/
def emit (op : Operation) (call : Call) (body : Option Block) : Render Unit :=
  match op.form call body.isSome with
  | .ok form => form.write body
  | .error e => throw e

end Operation

end Tag

end JellyViews
