/-
**What an operation writes.**

An operation looks at its arguments first and settles what it is going to write; only then does it
write.  A form is what was settled: an element without content, or an element around a body.  The
element of a loop over options writes one option before its body.

Main definitions:

* `Tag.Shape` — the three kinds of elements;
* `Tag.Form` — what is to be written;
* `Tag.Form.write` — writing it around a body.
-/

import JellyViews.Expression
import JellyViews.Markup.Context

set_option relaxedAutoImplicit false
set_option autoImplicit false

namespace JellyViews

namespace Tag

open Markup

/-! ### Shapes -/

/-- The kinds of elements: without content, with content, and loops. -/
inductive Shape where
  | void
  | block
  | iteration
deriving DecidableEq

/-- Whether an element of the shape takes a body. -/
def Shape.acceptsBody : Shape → Bool
  | void => false
  | block => true
  | iteration => true

/-- The name of a shape. -/
def Shape.text : Shape → String
  | void => "void"
  | block => "block"
  | iteration => "iteration"

/-! ### Forms -/

/-- What an operation writes once its arguments are settled. -/
inductive Form where
  /-- An element without content. -/
  | void (element : String) (attrs : Attributes)
  /-- An element around a body, which is given the scope.  With a selection, one option comes before
  the body. -/
  | around (element : String) (attrs : Attributes) (scope : Scope) (option : Option Selection)

/-- The element of an option. -/
def optionElement : String := "f:option"

/-- The attributes of an option. -/
def optionAttributes (s : Selection) : Attributes := Attributes.single "selected" s.test

/-- Writes one option: it is selected when the test holds, and shows the label. -/
def writeOption (s : Selection) : Render Unit := do
  openTag optionElement (optionAttributes s)
  append s.label
  closeTag optionElement

/-- The content of an element: the option, if there is one, and then the body. -/
def content (option : Option Selection) (body : Option Block) : Block := fun scope => do
  match option with
  | some s => writeOption s
  | none => pure ()
  runBody scope body

/-- Writes a form.  An element without content leaves the body alone. -/
def Form.write : Form → Option Block → Render Unit
  | void name attrs, _ => voidTag name attrs
  | around name attrs scope option, body =>
    element name attrs (some (content option body)) scope

end Tag

end JellyViews
