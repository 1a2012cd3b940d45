/-
**Quoted text.**

A text is quoted between double quotes; the quote, the backslash, NUL, tab, line feed and carriage
return are written with a backslash, and a character that is not printable
(`Text/Printable.lean`) by its number in lower-case hexadecimal, as in `\u{200b}`.  Between
backquotes nothing is changed.

Main definitions:

* `Text.quoted`, `Text.backquoted` — the text between quotes or backquotes.
-/

import JellyViews.Text.Printable

set_option relaxedAutoImplicit false
set_option autoImplicit false

namespace JellyViews

namespace Text

/-- The lower-case hexadecimal digits of a number, without leading zeros. -/
def hexDigits (n : Nat) : List Char := Nat.toDigits 16 n

/-- The characters that stand for `c` between quotes. -/
def quotedChar (c : Char) : List Char :=
  if c = '"' then ['\\', '"']
  else if c = '\\' then ['\\', '\\']
  else if c = '\x00' then ['\\', '0']
  else if c = '\t' then ['\\', 't']
  else if c = '\n' then ['\\', 'n']
  else if c = '\r' then ['\\', 'r']
  else if isPrintable c then [c]
  else ['\\', 'u', '\x7b'] ++ hexDigits c.toNat ++ ['\x7d']

/-- The text between double quotes. -/
def quoted (s : String) : String :=
  String.ofList ('"' :: s.toList.flatMap quotedChar ++ ['"'])

/-- The text between backquotes. -/
def backquoted (s : String) : String := "\x60" ++ s ++ "\x60"

end Text

end JellyViews
