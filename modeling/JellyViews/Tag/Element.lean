/-
**Elements with declared parameters.**

An element tag declares which arguments it knows, under which attribute each is written, and what
happens when one is absent.  Attributes come in this order: parameters as declared, then defaults
that are not yet there, then what is left of the call, which replaces earlier values in place.

Main definitions:

* `Tag.Absence`, `Tag.Param` — a parameter, and what its absence means;
* `Tag.Element` — an element tag;
* `Tag.Element.attributes` — the attributes that it writes for a call.
-/

import JellyViews.Naming
import JellyViews.Tag.Call
import JellyViews.Tag.Form

set_option relaxedAutoImplicit false
set_option autoImplicit false

namespace JellyViews

namespace Tag

/-! ### Parameters -/

/-- What it means that an argument is absent. -/
inductive Absence where
  /-- The call is refused. -/
  | refused
  /-- The attribute is left out. -/
  | omitted
  /-- The attribute gets this value. -/
  | filled (value : String)
deriving DecidableEq

/-- An argument and the attribute under which it is written. -/
structure Param where
  arg : String
  attr : String
  absence : Absence
deriving DecidableEq

namespace Param

/-- An argument that every call gives. -/
def required (arg : String) : Param := ⟨arg, arg, .refused⟩

/-- An argument that may be left out. -/
def optional (arg : String) : Param := ⟨arg, arg, .omitted⟩

/-- An argument with a value for calls that leave it out. -/
def defaulted (arg value : String) : Param := ⟨arg, arg, .filled value⟩

/-- The parameter written under another attribute. -/
def writtenAs (p : Param) (attr : String) : Param := { p with attr := attr }

end Param

/-! ### Element tags -/

/-- An element: its name in templates, the name that is written, its shape, its parameters and
attributes that every call gets. -/
structure Element where
  name : String
  element : String
  shape : Shape
  params : List Param
  defaults : Attributes

namespace Element

/-- An element tag without parameters and defaults. -/
def plain (name element : String) (shape : Shape) : Element := ⟨name, element, shape, [], ∅⟩

/-- An element tag whose element is its name in camel case behind a namespace. -/
def named (namespaceName name : String) (shape : Shape) : Element :=
  plain name (Naming.elementName namespaceName name) shape

/-- Takes the parameters out of a call, in order, and adds their attributes. -/
def takeParams (tag : String) :
    List Param → Call → Attributes → Except TagError (Attributes × Call)
  | [], call, attrs => .ok (attrs, call)
  | p :: ps, call, attrs =>
    match call.take p.arg, p.absence with
    | (some value, rest), _ => takeParams tag ps rest (attrs.insert p.attr value)
    | (none, _), .refused => .error (.missingArgument tag p.arg)
    | (none, rest), .omitted => takeParams tag ps rest attrs
    | (none, rest), .filled value => takeParams tag ps rest (attrs.insert p.attr value)

/-- The parameters, the defaults that are not among them, and on top what is left of the call. -/
def attributes (e : Element) (call : Call) : Except TagError Attributes := do
  let (attrs, rest) ← takeParams e.name e.params call ∅
  return (attrs.fill e.defaults).merge rest.args

/-- What the tag writes for a call; a body that the element cannot hold is refused after the
arguments were looked at. -/
def form (e : Element) (call : Call) (hasBody : Bool) : Except TagError Form := do
  let attrs ← e.attributes call
  if e.shape.acceptsBody then return .around e.element attrs .plain none
  if hasBody then throw (.unexpectedBody e.name)
  return .void e.element attrs

end Element

end Tag

end JellyViews
