/-
**Attributes of an element.**

An element's attributes are an ordered map from names to texts.  Defaults are put in first and
explicit values on top, so that a start tag lists attributes in default order with explicit values
winning.  Names and values are written as they are: nothing is escaped.

Main definitions:

* `Attributes` — the map;
* `Attributes.encode` — `name="value"` for each attribute, with a space between two.
-/

import JellyViews.OrderedMap

set_option relaxedAutoImplicit false
set_option autoImplicit false

namespace JellyViews

/-- Attribute names and their values, in the order in which they are written. -/
abbrev Attributes : Type := OrderedMap String String

namespace Attributes

/-- One attribute alone. -/
def single (name value : String) : Attributes := (∅ : Attributes).insert name value

/-- One attribute as it is written. -/
def encodeEntry (e : String × String) : String := e.1 ++ "=\"" ++ e.2 ++ "\""

/-- The attributes as they are written; nothing for no attributes. -/
def encode (attrs : Attributes) : String :=
  String.intercalate " " (attrs.entries.map encodeEntry)

end Attributes

end JellyViews
