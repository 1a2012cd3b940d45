/-
**Texts inside of other texts.**

A text that is put into markup, into an address or between quotes is escaped there: characters that
mean something in that place are written in another way.  A slug keeps only what is safe everywhere.

Main definitions:

* `Text.escapedBy` — a text with some characters written in another way;
* `Text.markupEscapes`, `Text.dataEscapes`, `Text.slashEscapes` — what is written for a character;
* `Text.percentEncoded` — a text for an address;
* `Text.slug` — small letters and digits with hyphens between them.
-/

import JellyViews.Text.CodeRange

set_option relaxedAutoImplicit false
set_option autoImplicit false

namespace JellyViews

namespace Text

/-! ### Markup and quotes -/

/-- The text with the listed characters written in another way. -/
def escapedBy (escapes : List (Char × String)) (s : String) : String :=
  String.ofList (s.toList.flatMap fun c =>
    match escapes.lookup c with
    | some t => t.toList
    | none => [c])

/-- Escapes for text and attributes of a page. -/
def markupEscapes : List (Char × String) :=
  [('&', "&amp;"), ('<', "&lt;"), ('>', "&gt;"), ('"', "&quot;"), ('\'', "&#x27;"),
   ('/', "&#x2F;")]

/-- Escapes for text and attributes of a data document. -/
def dataEscapes : List (Char × String) :=
  [('&', "&amp;"), ('<', "&lt;"), ('>', "&gt;"), ('"', "&quot;"), ('\'', "&apos;")]

/-- Backslashes before quotes and backslashes. -/
def slashEscapes : List (Char × String) :=
  [('\\', "\\\\"), ('"', "\\\""), ('\'', "\\'")]

/-! ### Addresses -/

/-- The characters that stand for a byte of an address. -/
def percentByte (b : UInt8) : List Char :=
  ['%', (Nat.digitChar (b.toNat / 16)).toUpper, (Nat.digitChar (b.toNat % 16)).toUpper]

/-- The text with a percent sign and two digits for every byte of the characters that are not
kept. -/
def percentEncoded (keeps : Char → Bool) (s : String) : String :=
  String.ofList (s.toList.flatMap fun c =>
    if keeps c then [c] else (String.utf8EncodeChar c).flatMap percentByte)

/-- Whether the character is kept in the path of an address. -/
def isPathChar (c : Char) : Bool :=
  c.isAlphanum || c == '-' || c == '.' || c == '_' || c == '~' || c == '/' || c == '%'

/-! ### Slugs -/

/-- The letters of the Latin supplement from U+00C0 on, without their marks. -/
def plainLatin : List String :=
  ["A", "A", "A", "A", "A", "A", "AE", "C", "E", "E", "E", "E", "I", "I", "I", "I",
   "D", "N", "O", "O", "O", "O", "O", "x", "O", "U", "U", "U", "U", "Y", "Th", "ss",
   "a", "a", "a", "a", "a", "a", "ae", "c", "e", "e", "e", "e", "i", "i", "i", "i",
   "d", "n", "o", "o", "o", "o", "o", "/", "o", "u", "u", "u", "u", "y", "th", "y"]

/-- The plain characters that stand for a character in a slug. -/
def plainChars (c : Char) : List Char :=
  if c.toNat < 0x80 then [c]
  else if 0xC0 ≤ c.toNat then ((plainLatin[c.toNat - 0xC0]?).getD "-").toList
  else ['-']

/-- Small letters and digits, and a hyphen for each row of other characters before them; `pending`
tells whether such a row is waiting. -/
def slugChars (started pending : Bool) : List Char → List Char
  | [] => []
  | c :: cs =>
    if c.isAlphanum then
      if started && pending then '-' :: c.toLower :: slugChars true false cs
      else c.toLower :: slugChars true false cs
    else slugChars started true cs

/-- The text as small letters and digits, with hyphens for everything else between them. -/
def slug (s : String) : String :=
  String.ofList (slugChars false false (s.toList.flatMap plainChars))

end Text

end JellyViews
