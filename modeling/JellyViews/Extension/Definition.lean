/-
**Tags that a tree of templates declares.**

A definition names a tag and says which kind of element it writes.  It becomes an operation if its
name and its element are well-formed and it says nothing that its kind has no use for.

Main definitions:

* `Extension.Kind`, `Extension.DefaultValue`, `Extension.Definition` — definitions;
* `Extension.Definition.operation` — the operation of a definition, or what is wrong with it.
-/

import JellyViews.Decimal.Layout
import JellyViews.Tag.Registry

set_option relaxedAutoImplicit false
set_option autoImplicit false

namespace JellyViews

namespace Extension

open Tag

/-! ### Definitions -/

/-- The kinds of tags that can be declared. -/
inductive Kind where
  /-- A form input bound to a field. -/
  | field
  /-- An element with a body. -/
  | block
  /-- An element without content. -/
  | void
deriving DecidableEq

/-- The name of a kind. -/
def Kind.text : Kind → String
  | field => "field"
  | block => "block"
  | void => "void"

/-- The kind of a name. -/
def Kind.ofText? (s : String) : Option Kind :=
  if s = "field" then some .field
  else if s = "block" then some .block
  else if s = "void" then some .void
  else none

/-- The shape of the elements of a kind. -/
def Kind.shape : Kind → Shape
  | field => .void
  | block => .block
  | void => .void

@[simp] theorem Kind.ofText?_text (k : Kind) : Kind.ofText? k.text = some k := by
  cases k <;> rfl

/-- A value that an attribute gets by default. -/
inductive DefaultValue where
  | bool (b : Bool)
  | int (n : Int)
  | float (x : Float)
  | text (s : String)

/-- The value as an attribute shows it. -/
def DefaultValue.shown : DefaultValue → String
  | bool b => if b then "true" else "false"
  | int n => Decimal.ofInt n
  | float x => Decimal.attributeLayout.write x
  | text s => s

/-- A declared tag.  The defaults are in the order of their names. -/
structure Definition where
  name : String
  kind : Kind
  valueAttr : Option String
  element : Option String
  required : List String
  defaults : OrderedMap String DefaultValue

/-- Named values in the order of their names; of a repeated name the last value counts. -/
def sortedDefaults (pairs : List (String × DefaultValue)) : OrderedMap String DefaultValue :=
  (OrderedMap.ofList pairs).sortBy fun a b => decide (a ≤ b)

/-! ### What can be wrong -/

/-- What is wrong with a definition. -/
inductive Defect where
  /-- The name is no identifier. -/
  | badName
  /-- The element, given or derived, cannot name an element. -/
  | badElement (element : String)
  /-- A field requires arguments. -/
  | fieldRequires
  /-- A field shows its value in the attribute that holds its name. -/
  | valueInName
  /-- A tag that is no field shows a value. -/
  | valueWithoutField
deriving DecidableEq

/-- The text of a defect. -/
def Defect.message : Defect → String
  | badName => "name must be an identifier ([A-Za-z_][A-Za-z0-9_]*)"
  | badElement element => "'" ++ element ++ "' is not a valid element name"
  | fieldRequires => "field tags take \x60name\x60 only; drop \x60required\x60"
  | valueInName => "\x60value_attr\x60 cannot be \x60name\x60, which holds the field name"
  | valueWithoutField => "\x60value_attr\x60 only applies to field tags"

/-! ### Operations of definitions -/

namespace Definition

/-- The element that the tag writes: the given one, or the name among the form elements. -/
def elementName (d : Definition) : String :=
  d.element.getD (Naming.elementName Naming.formNamespace d.name)

/-- The attribute in which a field shows its value. -/
def shownIn (d : Definition) : String := d.valueAttr.getD "value"

/-- The attributes that every call gets. -/
def attributes (d : Definition) : Attributes :=
  OrderedMap.ofList (d.defaults.entries.map fun e => (e.1, e.2.shown))

/-- The operation of a field. -/
def fieldOperation (d : Definition) : Except Defect Operation :=
  if d.required ≠ [] then .error .fieldRequires
  else if d.shownIn = Field.nameArg then .error .valueInName
  else .ok (.field ⟨d.name, d.elementName, d.shownIn, d.attributes⟩)

/-- The operation of a block or a void tag. -/
def elementOperation (d : Definition) : Except Defect Operation :=
  if d.valueAttr.isSome then .error .valueWithoutField
  else
    .ok (.element
      ⟨d.name, d.elementName, d.kind.shape, d.required.map Param.required, d.attributes⟩)

/-- The operation of a definition, or the first thing that is wrong with it. -/
def operation (d : Definition) : Except Defect Operation :=
  if ¬ Naming.isIdentifier d.name then .error .badName
  else if ¬ Naming.isElementName d.elementName then .error (.badElement d.elementName)
  else
    match d.kind with
    | .field => d.fieldOperation
    | .block => d.elementOperation
    | .void => d.elementOperation

end Definition

end Extension

end JellyViews
