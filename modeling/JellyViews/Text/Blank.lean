/-
**White space.**

The blanks are the 25 characters with the Unicode property `White_Space`.

Main definitions:

* `Text.isBlank` — whether a character is white space;
* `Text.trimStart`, `Text.trimEnd` — a text without its leading or trailing blanks.
-/

import JellyViews.Text.CodeRange

set_option relaxedAutoImplicit false
set_option autoImplicit false

namespace JellyViews

namespace Text

/-- The code points of white space. -/
def blankRanges : List CodeRange :=
  [⟨0x9, 0xD⟩, ⟨0x20, 0x20⟩, ⟨0x85, 0x85⟩, ⟨0xA0, 0xA0⟩, ⟨0x1680, 0x1680⟩, ⟨0x2000, 0x200A⟩,
   ⟨0x2028, 0x2029⟩, ⟨0x202F, 0x202F⟩, ⟨0x205F, 0x205F⟩, ⟨0x3000, 0x3000⟩]

/-- Whether the character is white space. -/
def isBlank (c : Char) : Bool := CodeRange.covers blankRanges c

/-- The text without its leading blanks. -/
def trimStart (s : String) : String := String.ofList (s.toList.dropWhile isBlank)

/-- The text without its trailing blanks. -/
def trimEnd (s : String) : String :=
  String.ofList (s.toList.reverse.dropWhile isBlank).reverse

/-- The text without the blanks around it. -/
def trim (s : String) : String := trimEnd (trimStart s)

end Text

end JellyViews
