/-
**Names of operations and elements.**

An operation has a name with underscores, as templates call it; the element it writes has a name in
camel case behind a namespace.  Extension tags choose both names, so both have a grammar.

Main definitions:

* `Naming.camelCase` — `expandable_textbox` becomes `expandableTextbox`;
* `Naming.elementName` — the camel-case name behind a namespace;
* `Naming.isIdentifier`, `Naming.isElementName` — the grammars.
-/

import JellyViews.Text.Blank
import JellyViews.Text.Uppercase

set_option relaxedAutoImplicit false
set_option autoImplicit false

namespace JellyViews

namespace Naming

/-! ### Camel case -/

/-- Drops underscores.  `started` tells whether a character has been kept, and `capital` whether an
underscore was dropped since then, in which case the next character is upper-cased. -/
def camelChars (started capital : Bool) : List Char → List Char
  | [] => []
  | c :: cs =>
    if c = '_' then camelChars started started cs
    else if capital then Text.upperCase c ++ camelChars true false cs
    else c :: camelChars true false cs

/-- The name in camel case. -/
def camelCase (name : String) : String := String.ofList (camelChars false false name.toList)

/-- The name in camel case behind a namespace. -/
def elementName (namespaceName name : String) : String :=
  namespaceName ++ ":" ++ camelCase name

/-- The namespace of form elements. -/
def formNamespace : String := "f"

/-! ### Grammars -/

/-- Whether the character may begin an identifier. -/
def isIdentifierStart (c : Char) : Bool := c.isAlpha || c == '_'

/-- Whether the character may occur in an identifier. -/
def isIdentifierChar (c : Char) : Bool := c.isAlphanum || c == '_'

/-- Whether the name is an ASCII letter or underscore followed by letters, digits and
underscores. -/
def isIdentifier (name : String) : Bool :=
  match name.toList with
  | [] => false
  | c :: cs => isIdentifierStart c && cs.all isIdentifierChar

/-- Whether the character may not occur in the name of an element. -/
def breaksElementName (c : Char) : Bool :=
  Text.isBlank c || c == '<' || c == '>' || c == '/' || c == '"' || c == '\'' || c == '='

/-- Whether the name may name an element: not empty, no colon at either end, and no character that
ends a name in a tag. -/
def isElementName (name : String) : Bool :=
  match name.toList with
  | [] => false
  | c :: cs =>
    c != ':' && (c :: cs).getLast? != some ':' && !(c :: cs).any breaksElementName

end Naming

end JellyViews
