/-
**Tags and directives.**

A tag is written as a handle and a suffix, or in full between `<` and `>`.  Characters that may not
stand in a tag are written as escaped octets, a percent sign and two digits each.  A directive is a
line before a document: it gives the version of the format, or it declares what a handle stands for.

Main definitions:

* `Yaml.uri` — a row of characters that may stand in a tag, with the escapes resolved;
* `Yaml.TagName`, `Yaml.tagName` — a tag as it is written;
* `Yaml.Directive`, `Yaml.directive` — a directive.
-/

import JellyViews.Decimal.Layout
import JellyViews.Text.Reader
import JellyViews.Yaml.Chars

set_option relaxedAutoImplicit false
set_option autoImplicit false

namespace JellyViews

namespace Yaml

open Text Text.Reader

/-! ### Escaped octets -/

/-- Whether the character may stand in a tag; the marks of brackets only where `verbatim` holds. -/
def isTagChar (verbatim : Bool) (c : Char) : Bool :=
  isNameChar c || ";/?:@&=+$.!~*'()".toList.contains c || (verbatim && ",[]".toList.contains c)

/-- An escaped octet. -/
def octet : Reader Nat := do
  exactly ['%']
  let high ← satisfying fun c => (Decimal.natOf? 16 [c]).isSome
  let low ← satisfying fun c => (Decimal.natOf? 16 [c]).isSome
  match Decimal.natOf? 16 [high, low] with
  | some n => return n
  | none => fail

/-- An escaped octet that is not the first one of a character: its six bits. -/
def trailingOctet : Reader Nat := do
  let n ← octet
  if 0x80 ≤ n ∧ n < 0xC0 then return n - 0x80 else fail

/-- The character of a number; a number that is none has a replacement. -/
def charOrReplacement (n : Nat) : Char := if n.isValidChar then Char.ofNat n else '\uFFFD'

/-- A character of one to four escaped octets. -/
def escapedChar : Reader Char := do
  let lead ← octet
  if lead < 0x80 then return charOrReplacement lead
  else if lead < 0xC0 then fail
  else if lead < 0xE0 then return charOrReplacement ((lead - 0xC0) * 0x40 + (← trailingOctet))
  else if lead < 0xF0 then
    let a ← trailingOctet
    return charOrReplacement ((lead - 0xE0) * 0x1000 + a * 0x40 + (← trailingOctet))
  else if lead < 0xF8 then
    let a ← trailingOctet
    let b ← trailingOctet
    return charOrReplacement
      ((lead - 0xF0) * 0x40000 + a * 0x1000 + b * 0x40 + (← trailingOctet))
  else fail

/-- The characters before the first zero, which ends a text. -/
def beforeZero (cs : List Char) : List Char := cs.takeWhile (· != '\x00')

/-- A row of characters of a tag, which may be empty; `none` stands for no characters at all. -/
def uri (verbatim : Bool) : Reader (Option String) := do
  let cs ← many (satisfying (isTagChar verbatim) <|> escapedChar)
  return if cs.isEmpty then none else some (String.ofList (beforeZero cs))

/-- A row of characters of a tag, which must not be empty. -/
def someUri (verbatim : Bool) : Reader String := do
  match ← uri verbatim with
  | some s => return s
  | none => fail

/-! ### Tags -/

/-- A tag as it is written: its handle and what is behind the handle.  A tag that is written in full
has an empty handle. -/
structure TagName where
  handle : String
  suffix : String
deriving DecidableEq

/-- An exclamation mark, a name, and another exclamation mark. -/
def handle : Reader String := do
  exactly ['!']
  let name ← run isNameChar
  exactly ['!']
  return String.ofList ('!' :: name ++ ['!'])

/-- A tag in full. -/
def verbatimTag : Reader TagName := do
  exactly ['!', '<']
  let suffix ← someUri true
  exactly ['>']
  return ⟨"", suffix⟩

/-- A tag with a handle of its own. -/
def handledTag : Reader TagName := do
  let h ← handle
  return ⟨h, ← someUri false⟩

/-- A tag with the handle `!`; this mark alone is a tag in full. -/
def localTag : Reader TagName := do
  exactly ['!']
  match (← uri false).getD "" with
  | "" => return ⟨"", "!"⟩
  | suffix => return ⟨"!", suffix⟩

/-- A tag; what begins like one with a handle must be one. -/
def tagName : Reader TagName := fun s =>
  if ['!', '<'].isPrefixOf s then verbatimTag s
  else if (handle s).isSome then handledTag s
  else localTag s

/-! ### Directives -/

/-- A directive. -/
inductive Directive where
  /-- The version of the format. -/
  | version (major minor : Nat)
  /-- What a handle stands for. -/
  | handle (name meaning : String)
deriving DecidableEq

/-- At least one blank. -/
def blanks : Reader Unit := do
  let _ ← satisfying isBlank
  let _ ← run isBlank

/-- Nothing, if nothing but white space comes next. -/
def wordEnd : Reader Unit := fun s => if endsWord s then some ((), s) else none

/-- A number of at most nine digits. -/
def versionNumber : Reader Nat := do
  let ds ← run Char.isDigit
  match Decimal.natOf? 10 ds with
  | some n => if ds.length ≤ 9 then return n else fail
  | none => fail

/-- A version: two numbers with a point between them. -/
def version : Reader Directive := do
  let _ ← run isBlank
  let major ← versionNumber
  exactly ['.']
  let minor ← versionNumber
  return .version major minor

/-- The handle `!`, or one with a name. -/
def declaredHandle : Reader String := handle <|> (do exactly ['!']; return "!")

/-- A handle and what it stands for. -/
def declaration : Reader Directive := do
  let _ ← run isBlank
  let name ← declaredHandle
  blanks
  let meaning ← someUri true
  wordEnd
  return .handle name meaning

/-- The rest of a line, which may hold a comment only, and its break. -/
def lineRest : Reader Unit := do
  let _ ← run isBlank
  let _ ← maybe (do exactly ['#']; run fun c => !isBreak c)
  wordEnd
  let _ ← maybe (satisfying isBreak)

/-- A directive with its percent sign and its line break. -/
def directive : Reader Directive := do
  exactly ['%']
  let name ← run isNameChar
  wordEnd
  let d ←
    if name = "YAML".toList then version
    else if name = "TAG".toList then declaration
    else fail
  lineRest
  return d

end Yaml

end JellyViews
