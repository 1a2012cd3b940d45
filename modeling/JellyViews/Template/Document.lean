/-
**Reading templates.**

A template is text with tags: output tags, comments, raw text, and sections with their end tags.  A
tag that has a minus sign at one of its ends trims the text that touches this end.  Comments at the
very beginning of a template are left out before anything is trimmed.

This is a part of the language.  Left out are its other tags: conditions, loops and assignments,
macros and their imports, blocks and the templates that they extend, and other templates that are
included.  A template with such a tag counts as malformed here.

Main definitions:

* `Template.Piece` — text or a tag, with the ends that trim;
* `Template.settle` — trimming the texts between tags;
* `Template.parse` — the nodes of a template, unless it is malformed or not of this part.
-/

import JellyViews.Template.Grammar
import JellyViews.Text.Blank

set_option relaxedAutoImplicit false
set_option autoImplicit false

namespace JellyViews

namespace Template

open Text Text.Reader

/-! ### Trimming -/

/-- Text, or a tag with its node.  A comment has no node.  `before` and `after` tell whether the tag
trims the text before it and after it. -/
inductive Piece where
  | text (s : String)
  | tag (before after : Bool) (node : Option Node)

/-- Whether the pieces begin with a tag that trims what is before it; `last` answers for the end. -/
def trimsBefore (last : Bool) : List Piece → Bool
  | [] => last
  | .text _ :: _ => false
  | .tag before _ _ :: _ => before

/-- The text trimmed at either end. -/
def trimmedText (atStart atEnd : Bool) (s : String) : String :=
  let s := if atStart then trimStart s else s
  if atEnd then trimEnd s else s

/-- The nodes of pieces: `first` and `last` tell whether what encloses them trims them at the start
and at the end. -/
def settle (first last : Bool) : List Piece → List Node
  | [] => []
  | .text s :: rest =>
    .text (trimmedText first (trimsBefore last rest) s) :: settle false last rest
  | .tag _ after node :: rest => node.toList ++ settle after last rest

/-! ### Tags -/

/-- Whether the characters begin a tag. -/
def beginsTag : List Char → Bool
  | '\x7b' :: c :: _ => c == '\x7b' || c == '%' || c == '#'
  | _ => false

/-- The text up to the next tag. -/
def spanText : List Char → List Char × List Char
  | [] => ([], [])
  | c :: cs =>
    if beginsTag (c :: cs) then ([], c :: cs)
    else
      let (text, rest) := spanText cs
      (c :: text, rest)

/-- A text without tags. -/
def textPiece : Reader Piece := fun s =>
  match spanText s with
  | ([], _) => none
  | (text, rest) => some (.text (String.ofList text), rest)

/-- The beginning of a tag, which may have a minus sign: whether it has one. -/
def opening (mark : Char) : Reader Bool := do
  exactly ['\x7b', mark]
  return (← maybe (exactly ['-'])).isSome

/-- The end of a tag, which may have a minus sign: whether it has one. -/
def closing (mark : Char) : Reader Bool := do
  let minus ← maybe (exactly ['-'])
  exactly [mark, '\x7d']
  return minus.isSome

/-- An output tag. -/
def outputPiece : Reader Piece := do
  let before ← opening '\x7b'
  let t ← Grammar.term
  let after ← Lexeme.spaced (closing '\x7d')
  return .tag before after (some (.output t))

/-- The characters up to the first place where the reader succeeds, and its value there. -/
def upTo {α : Type} (p : Reader α) : List Char → Option ((List Char × α) × List Char)
  | [] => (p []).map fun q => (([], q.1), q.2)
  | c :: cs =>
    match p (c :: cs) with
    | some (a, rest) => some (([], a), rest)
    | none => (upTo p cs).map fun q => ((c :: q.1.1, q.1.2), q.2)

/-- A comment, in which there is at least one character. -/
def commentPiece : Reader Piece := do
  let before ← opening '#'
  let (text, after) ← upTo (closing '#')
  if text.isEmpty then fail
  return .tag before after none

/-- A tag that consists of a word. -/
def wordTag (word : String) : Reader (Bool × Bool) := do
  let before ← opening '%'
  Lexeme.symbol word
  let after ← Lexeme.spaced (closing '%')
  return (before, after)

/-- Text in which nothing is a tag. -/
def rawPiece : Reader Piece := do
  let (before, first) ← wordTag "raw"
  let (text, last, after) ← upTo (wordTag "endraw")
  return .tag before after (some (.text (trimmedText first last (String.ofList text))))

/-- A section around the pieces that `body` reads. -/
def sectionPiece (body : Reader (List Piece)) : Reader Piece := do
  let before ← opening '%'
  Lexeme.word "filter"
  let f ← Grammar.application
  let first ← Lexeme.spaced (closing '%')
  let pieces ← body
  let (last, after) ← wordTag "endfilter"
  return .tag before after (some (.section f.1 f.2 (settle first last pieces)))

/-- Pieces whose sections nest at most so deep. -/
def piecesAt : Nat → Reader (List Piece)
  | 0, _ => none
  | n + 1, s =>
    many (textPiece <|> outputPiece <|> commentPiece <|> rawPiece <|>
      sectionPiece fun t => piecesAt n t) s

/-- All pieces of a template. -/
def pieces : Reader (List Piece) := do
  let _ ← many commentPiece
  let ps ← fun s => piecesAt (s.length + 1) s
  atEnd
  return ps

/-- The nodes of a template; `none` for a text that is no template of this part of the language. -/
def parse (source : String) : Option (List Node) :=
  (pieces source.toList).map fun q => settle false false q.1

end Template

end JellyViews
