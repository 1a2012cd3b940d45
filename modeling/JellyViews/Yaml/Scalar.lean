/-
**The texts of scalars.**

A scalar is written between single quotes, between double quotes, plainly, or as a block of lines.
Each function here takes the characters from the beginning of the scalar on and gives its text and
the characters behind it; `none` means that the stream is malformed.

Main definitions:

* `Yaml.singleQuoted`, `Yaml.doubleQuoted` — between quotes;
* `Yaml.plain` — plainly;
* `Yaml.blockText` — as a block, literal or folded.
-/

import JellyViews.Decimal.Layout
import JellyViews.Yaml.Chars

set_option relaxedAutoImplicit false
set_option autoImplicit false

namespace JellyViews

namespace Yaml

/-! ### Single quotes -/

/-- The text up to the closing quote; a quote inside is written twice.  `atStart` tells whether a
line begins here, where no document may begin or end. -/
def singleQuoted (atStart : Bool) (done : List Char) (gap : Gap) :
    List Char → Option (List Char × List Char)
  | [] => none
  | c :: cs =>
    if atStart && isDocumentMark (c :: cs) then none
    else if isBreak c then singleQuoted true done (gap.add c) cs
    else if isBlank c then singleQuoted false done (gap.add c) cs
    else if c = '\'' then
      match cs with
      | '\'' :: cs' => singleQuoted false (done ++ gap.text ++ ['\'']) .empty cs'
      | cs' => some (done ++ gap.text, cs')
    else singleQuoted false (done ++ gap.text ++ [c]) .empty cs

/-! ### Double quotes -/

/-- The character that an escape of two characters stands for. -/
def shortEscape? (c : Char) : Option Char :=
  [('0', '\x00'), ('a', '\x07'), ('b', '\x08'), ('t', '\t'), ('\t', '\t'), ('n', '\n'),
   ('v', '\x0b'), ('f', '\x0c'), ('r', '\r'), ('e', '\x1b'), (' ', ' '), ('"', '"'), ('/', '/'),
   ('\\', '\\'), ('N', '\x85'), ('_', '\xa0'), ('L', '\u2028'), ('P', '\u2029')].lookup c

/-- The number of hexadecimal digits behind an escape. -/
def hexLength? (c : Char) : Option Nat := [('x', 2), ('u', 4), ('U', 8)].lookup c

/-- The character with this number, unless there is none. -/
def charOf? (n : Nat) : Option Char := if n.isValidChar then some (Char.ofNat n) else none

/-- The character of so many hexadecimal digits. -/
def hexEscape? (length : Nat) (cs : List Char) : Option Char :=
  let digits := cs.take length
  if digits.length = length then (Decimal.natOf? 16 digits).bind charOf? else none

/-- The text up to the closing quote; a backslash escapes characters and line breaks. -/
def doubleQuoted (atStart : Bool) (done : List Char) (gap : Gap) :
    List Char → Option (List Char × List Char)
  | [] => none
  | c :: cs =>
    if atStart && isDocumentMark (c :: cs) then none
    else if isBreak c then doubleQuoted true done (gap.add c) cs
    else if isBlank c then doubleQuoted false done (gap.add c) cs
    else if c = '"' then some (done ++ gap.text, cs)
    else if c = '\\' then
      match cs with
      | [] => none
      | e :: es =>
        if isBreak e then doubleQuoted true (done ++ gap.text) .escapedBreak es
        else
          match shortEscape? e, hexLength? e with
          | some d, _ => doubleQuoted false (done ++ gap.text ++ [d]) .empty es
          | none, some n =>
            match hexEscape? n es with
            | some d => doubleQuoted false (done ++ gap.text ++ [d]) .empty (es.drop n)
            | none => none
          | none, none => none
    else doubleQuoted false (done ++ gap.text ++ [c]) .empty cs
termination_by cs => cs.length
decreasing_by all_goals (simp only [List.length_cons, List.length_drop]; omega)

/-! ### Plain scalars -/

/-- Where a plain scalar is: inside of brackets or not, and how far its lines must be indented. -/
structure PlainPlace where
  inBrackets : Bool
  indent : Nat

/-- Whether a colon inside of brackets stands directly before a mark, where it may not stand. -/
def isStrayColon (place : PlainPlace) : List Char → Bool
  | ':' :: c :: _ => place.inBrackets && (isBracketMark c || c == '?')
  | _ => false

/-- Whether the characters end a plain scalar: a colon before white space, or inside of brackets a
mark. -/
def endsPlain (place : PlainPlace) : List Char → Bool
  | [] => true
  | c :: cs => (c == ':' && endsWord cs) || (place.inBrackets && isBracketMark c)

/-- What a plain scalar is: its text, whether white space with a line break follows it, and the
characters behind both. -/
structure PlainText where
  text : List Char
  brokenAfter : Bool
  rest : List Char

/-- Whether a row of characters without white space, which begins here, does not belong to the
scalar. -/
def startsOther (place : PlainPlace) (column : Nat) (cs : List Char) : Bool :=
  (!place.inBrackets && decide (column < place.indent)) ||
    (column == 0 && isDocumentMark cs) || cs.head? == some '#'

/-- The text of a plain scalar from here on; `column` is that of the first character, and `inWord`
tells whether it goes on with a row of characters without white space. -/
def plainFrom (place : PlainPlace) (column : Nat) (inWord : Bool) (done : List Char) (gap : Gap) :
    List Char → Option PlainText
  | [] => some ⟨done, gap.broken, []⟩
  | c :: cs =>
    if isBreak c then plainFrom place 0 false done (gap.add c) cs
    else if isBlank c then
      if gap.broken && c == '\t' && decide (column < place.indent) then none
      else plainFrom place (column + 1) false done (gap.add c) cs
    else if !inWord && startsOther place column (c :: cs) then some ⟨done, gap.broken, c :: cs⟩
    else if isStrayColon place (c :: cs) then none
    else if endsPlain place (c :: cs) then some ⟨done, gap.broken, c :: cs⟩
    else plainFrom place (column + 1) true (done ++ gap.text ++ [c]) .empty cs

/-- The text of a plain scalar that begins here. -/
def plain (place : PlainPlace) (column : Nat) (cs : List Char) : Option PlainText :=
  plainFrom place column true [] .empty cs

/-! ### Lines -/

/-- A line and the break at its end, if it has one. -/
structure Line where
  chars : List Char
  ending : Option Char

/-- The lines of a text. -/
def splitLines : List Char → List Line
  | [] => []
  | c :: cs =>
    if isBreak c then ⟨[], some c⟩ :: splitLines cs
    else
      match splitLines cs with
      | [] => [⟨[c], none⟩]
      | l :: ls => { l with chars := c :: l.chars } :: ls

/-- The text of lines. -/
def joinLines (ls : List Line) : List Char := ls.flatMap fun l => l.chars ++ l.ending.toList

/-! ### Blocks -/

/-- What becomes of the line breaks at the end of a block. -/
inductive Chomp where
  | strip
  | clip
  | keep
deriving DecidableEq

/-- How a block is written: folded or literal, the breaks at its end, and the number of columns by
which it is indented, if it says so. -/
structure BlockStyle where
  literal : Bool
  chomp : Chomp
  increment : Option Nat

/-- The sign that says what becomes of the breaks at the end. -/
def chompOf? (c : Char) : Option Chomp :=
  if c = '+' then some .keep else if c = '-' then some .strip else none

/-- The digit that says how far a block is indented. -/
def incrementOf? (c : Char) : Option Nat :=
  if '1' ≤ c ∧ c ≤ '9' then some (c.toNat - '0'.toNat) else none

/-- A sign and a digit, in either order, and what is behind them. -/
def blockIndicators (literal : Bool) : List Char → BlockStyle × List Char
  | [] => (⟨literal, .clip, none⟩, [])
  | c :: cs =>
    match chompOf? c, incrementOf? c with
    | some chomp, _ =>
      match cs with
      | d :: ds =>
        match incrementOf? d with
        | some n => (⟨literal, chomp, some n⟩, ds)
        | none => (⟨literal, chomp, none⟩, d :: ds)
      | [] => (⟨literal, chomp, none⟩, [])
    | none, some n =>
      match cs with
      | d :: ds =>
        match chompOf? d with
        | some chomp => (⟨literal, chomp, some n⟩, ds)
        | none => (⟨literal, .clip, some n⟩, d :: ds)
      | [] => (⟨literal, .clip, some n⟩, [])
    | none, none => (⟨literal, .clip, none⟩, c :: cs)

/-- What is left of the line behind the indicators: white space and a comment are allowed. -/
def blockHeaderEnd (cs : List Char) : Option (List Char) :=
  match cs.dropWhile isBlank with
  | [] => some []
  | c :: r =>
    if c = '#' then some ((r.dropWhile fun d => !isBreak d).drop 1)
    else if isBreak c then some r
    else none

/-- The number of spaces at the beginning of a line. -/
def leadingSpaces (l : Line) : Nat := (l.chars.takeWhile (· == ' ')).length

/-- The indentation of a block that does not say it: that of its first line with text, but at least
that of the lines of spaces before it, and at least `most` as known so far. -/
def measured (most : Nat) : List Line → Option Nat
  | [] => some most
  | l :: ls =>
    let k := leadingSpaces l
    match l.chars.drop k, l.ending with
    | [], some _ => measured (max most k) ls
    | '\t' :: _, _ => none
    | _, _ => some (max most k)

/-- What a line is to a block of a known indentation. -/
inductive LineRole where
  /-- A tab stands where a space is needed. -/
  | malformed
  /-- The line adds its break only. -/
  | blank (ending : Char)
  /-- The line adds its text. -/
  | content (chars : List Char)
  /-- The line does not belong to the block. -/
  | outside

/-- The role of a line. -/
def roleOf (indent : Nat) (l : Line) : LineRole :=
  let k := min indent (leadingSpaces l)
  match l.chars.drop k with
  | [] =>
    match l.ending with
    | some b => .blank b
    | none => .outside
  | c :: cs =>
    if k < indent then if c = '\t' then .malformed else .outside
    else .content (c :: cs)

/-- The text of a block so far, the break behind it, whether its last line began with a blank, and
the breaks of the blank lines that follow. -/
structure BlockText where
  done : List Char
  lead : Option Char
  blankStart : Bool
  breaks : List Char

/-- The block with one more line of text.  A single break between two lines that begin with no blank
is folded to a space, and dropped if blank lines follow it. -/
def BlockText.addLine (b : BlockText) (literal : Bool) (chars : List Char) (ending : Option Char) :
    BlockText :=
  let blankStart := (chars.head?.map isBlank).getD false
  let before :=
    if !literal && b.lead == some '\n' && !b.blankStart && !blankStart then
      if b.breaks = [] then [' '] else []
    else b.lead.toList
  ⟨b.done ++ before ++ b.breaks ++ chars, ending, blankStart, []⟩

/-- Reads the lines of a block. -/
def blockLines (literal : Bool) (indent : Nat) (b : BlockText) :
    List Line → Option (BlockText × List Line)
  | [] => some (b, [])
  | l :: ls =>
    match roleOf indent l with
    | .malformed => none
    | .blank e => blockLines literal indent { b with breaks := b.breaks ++ [e] } ls
    | .content chars => blockLines literal indent (b.addLine literal chars l.ending) ls
    | .outside => some (b, l :: ls)

/-- The whole text of a block. -/
def BlockText.finish (b : BlockText) : Chomp → List Char
  | .strip => b.done
  | .clip => b.done ++ b.lead.toList
  | .keep => b.done ++ b.lead.toList ++ b.breaks

/-- The text of a block whose indicators begin here; `indent` is the indentation of what holds it,
and `-1` if nothing does. -/
def blockText (literal : Bool) (indent : Int) (cs : List Char) :
    Option (List Char × List Char) := do
  let (style, afterStyle) := blockIndicators literal cs
  let body ← blockHeaderEnd afterStyle
  let lines := splitLines body
  let columns ←
    match style.increment with
    | some n => pure (indent.toNat + n)
    | none => measured (max (indent + 1).toNat 1) lines
  let (b, rest) ← blockLines literal columns ⟨[], none, false, []⟩ lines
  return (b.finish style.chomp, joinLines rest)

end Yaml

end JellyViews
