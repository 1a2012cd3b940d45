/-
**Characters and white space of YAML.**

A stream may hold printable characters only; carriage returns, pairs of carriage return and line
feed, and the next-line character count as line feeds.  White space inside of a scalar that is
written over several lines is folded: one line break becomes a space, and of several the first one
is dropped.

Main definitions:

* `Yaml.isAllowed`, `Yaml.lineFeeds` — the characters of a stream;
* `Yaml.isBreak`, `Yaml.isBlank`, `Yaml.endsWord` — classes of characters;
* `Yaml.Gap`, `Yaml.Gap.text` — white space inside of a scalar, and what it is folded to.
-/

set_option relaxedAutoImplicit false
set_option autoImplicit false

namespace JellyViews

namespace Yaml

/-! ### Streams -/

/-- Whether a stream may hold the character. -/
def isAllowed (c : Char) : Bool :=
  let n := c.toNat
  n == 0x9 || n == 0xA || n == 0xD || (0x20 ≤ n && n ≤ 0x7E) || n == 0x85 ||
    (0xA0 ≤ n && n ≤ 0xD7FF) || (0xE000 ≤ n && n ≤ 0xFFFD) || 0x10000 ≤ n

/-- The characters with a line feed for every line break, but for the two separators that scalars
keep. -/
def lineFeeds : List Char → List Char
  | [] => []
  | '\r' :: '\n' :: cs => '\n' :: lineFeeds cs
  | c :: cs => (if c = '\r' ∨ c = '\x85' then '\n' else c) :: lineFeeds cs

/-! ### Classes -/

/-- Whether the character ends a line. -/
def isBreak (c : Char) : Bool := c == '\n' || c == '\u2028' || c == '\u2029'

/-- Whether the character is a space or a tab. -/
def isBlank (c : Char) : Bool := c == ' ' || c == '\t'

/-- Whether nothing but white space can come next. -/
def endsWord : List Char → Bool
  | [] => true
  | c :: _ => isBlank c || isBreak c

/-- Whether the character may occur in the name of an anchor. -/
def isNameChar (c : Char) : Bool := c.isAlphanum || c == '_' || c == '-'

/-- Whether the character has a meaning inside of brackets. -/
def isBracketMark (c : Char) : Bool :=
  c == ',' || c == '[' || c == ']' || c == '\x7b' || c == '\x7d'

/-- Whether a line that begins here begins or ends a document. -/
def isDocumentMark : List Char → Bool
  | '-' :: '-' :: '-' :: cs => endsWord cs
  | '.' :: '.' :: '.' :: cs => endsWord cs
  | _ => false

/-! ### White space inside of scalars -/

/-- White space inside of a scalar: the blanks, or the line breaks if there are any.  A line break
that is escaped counts as a break but leaves `first` empty. -/
structure Gap where
  blanks : List Char
  first : Option Char
  others : List Char
  broken : Bool

namespace Gap

/-- No white space. -/
def empty : Gap := ⟨[], none, [], false⟩

/-- An escaped line break. -/
def escapedBreak : Gap := ⟨[], none, [], true⟩

/-- The gap with one more blank. -/
def addBlank (g : Gap) (c : Char) : Gap :=
  if g.broken then g else { g with blanks := g.blanks ++ [c] }

/-- The gap with one more line break. -/
def addBreak (g : Gap) (c : Char) : Gap :=
  if g.broken then { g with others := g.others ++ [c] } else ⟨[], some c, [], true⟩

/-- The gap with one more character of white space. -/
def add (g : Gap) (c : Char) : Gap := if isBreak c then g.addBreak c else g.addBlank c

/-- What the gap is folded to. -/
def text (g : Gap) : List Char :=
  if g.broken then
    match g.first with
    | some '\n' => if g.others = [] then [' '] else g.others
    | some c => c :: g.others
    | none => g.others
  else g.blanks

end Gap

end Yaml

end JellyViews
