/-
**Tokens and indentation.**

Outside of brackets the indentation of lines opens and closes collections, so reading a stream gives
tokens for the marks that are written and for those that only the indentation shows.  A key is
recognised late: when its colon is met, the tokens of the key are already in the row, and the marks
before it are put in at the place where the key began.  A key must fit on one line, and its colon
must come within 1024 bytes.

Main definitions:

* `Yaml.Token` — the tokens;
* `Yaml.Scan` — the state of reading: tokens, place, indentation, possible keys;
* `Yaml.tokens?` — the tokens of a stream, unless it is malformed.
-/

import JellyViews.Yaml.Scalar
import JellyViews.Yaml.Tag

set_option relaxedAutoImplicit false
set_option autoImplicit false

namespace JellyViews

namespace Yaml

/-! ### Tokens -/

/-- A token. -/
inductive Token where
  | directive (d : Directive)
  | documentStart
  | documentEnd
  | sequenceStart
  | mappingStart
  /-- The end of a collection that its indentation shows. -/
  | blockEnd
  | bracketOpen
  | bracketClose
  | braceOpen
  | braceClose
  /-- The dash before an item. -/
  | item
  | comma
  | key
  | value
  | alias (name : String)
  | anchor (name : String)
  | tag (name : TagName)
  | scalar (text : String) (plain : Bool)
deriving DecidableEq

/-! ### Places -/

/-- A place in the stream; the index counts bytes, and the column characters. -/
structure Place where
  index : Nat
  line : Nat
  column : Nat

/-- The place behind a character. -/
def Place.after (p : Place) (c : Char) : Place :=
  if isBreak c then ⟨p.index + c.utf8Size, p.line + 1, 0⟩
  else ⟨p.index + c.utf8Size, p.line, p.column + 1⟩

/-- A place where a key may have begun: the number of tokens before it, and whether the indentation
requires a key there. -/
structure KeyPlace where
  place : Place
  count : Nat
  required : Bool

/-! ### States -/

/-- The state of reading.  There is one entry in `keys` for every open bracket, innermost first, and
one more for what is outside of brackets. -/
structure Scan where
  tokens : Array Token
  rest : List Char
  place : Place
  indent : Int
  outer : List Int
  keyAllowed : Bool
  keys : List (Option KeyPlace)

namespace Scan

/-- The state at the beginning of a stream. -/
def start (cs : List Char) : Scan := ⟨#[], cs, ⟨0, 0, 0⟩, -1, [], true, [none]⟩

/-- Whether a bracket is open. -/
def inBrackets (s : Scan) : Bool := decide (1 < s.keys.length)

/-- The state behind the characters before `rest`. -/
def moveTo (s : Scan) (rest : List Char) : Scan :=
  { s with
    place := (s.rest.take (s.rest.length - rest.length)).foldl Place.after s.place
    rest := rest }

/-- The state behind `n` more characters. -/
def skip (s : Scan) (n : Nat) : Scan := s.moveTo (s.rest.drop n)

/-- Adds a token. -/
def emit (s : Scan) (t : Token) : Scan := { s with tokens := s.tokens.push t }

/-- Puts a token into the row. -/
def insertAt (s : Scan) (n : Nat) (t : Token) : Scan :=
  { s with tokens := s.tokens.extract 0 n ++ #[t] ++ s.tokens.extract n s.tokens.size }

/-- Says whether a key may begin next. -/
def allowKey (s : Scan) (b : Bool) : Scan := { s with keyAllowed := b }

/-! ### Keys -/

/-- Forgets the possible key of the innermost bracket; a required key must not be forgotten. -/
def forgetKey (s : Scan) : Option Scan :=
  match s.keys with
  | some k :: ks => if k.required then none else some { s with keys := none :: ks }
  | _ => some s

/-- Remembers that a key may begin here. -/
def rememberKey (s : Scan) : Option Scan :=
  if s.keyAllowed then do
    let required := !s.inBrackets && s.indent == (s.place.column : Int)
    let s ← s.forgetKey
    return { s with keys := some ⟨s.place, s.tokens.size, required⟩ :: s.keys.drop 1 }
  else some s

/-- Whether a key that began there can no longer end here. -/
def isStale (s : Scan) (k : KeyPlace) : Bool :=
  decide (k.place.line < s.place.line) || decide (k.place.index + 1024 < s.place.index)

/-- Forgets a possible key that can no longer be one. -/
def freshKey (s : Scan) : Option KeyPlace → Option (Option KeyPlace)
  | none => some none
  | some k => if s.isStale k then if k.required then none else some none else some (some k)

/-- Forgets all possible keys that can no longer be keys. -/
def forgetStale (s : Scan) : Option Scan := do
  let keys ← s.keys.mapM s.freshKey
  return { s with keys := keys }

/-! ### Indentation -/

/-- Opens a collection at a column, if it is further in than the one that is open; its token comes
before the token number `n`. -/
def openAt (s : Scan) (column : Nat) (n : Nat) (t : Token) : Scan :=
  if !s.inBrackets && decide (s.indent < (column : Int)) then
    { s.insertAt n t with indent := column, outer := s.indent :: s.outer }
  else s

/-- Closes the collections in `outer` that are further in than the column. -/
def closing (column : Int) (indent : Int) : List Int → Nat → Int × List Int × Nat
  | [], n => (indent, [], n)
  | o :: os, n => if column < indent then closing column o os (n + 1) else (indent, o :: os, n)

/-- Closes the collections that are further in than the column. -/
def closeTo (s : Scan) (column : Int) : Scan :=
  if s.inBrackets then s
  else
    let (indent, outer, n) := closing column s.indent s.outer 0
    { s with
      indent := indent
      outer := outer
      tokens := s.tokens ++ Array.replicate n Token.blockEnd }

/-! ### White space between tokens -/

/-- Skips white space and comments.  A line break outside of brackets allows a key; where a key may
begin, tabs are no white space.  One byte order mark may stand at the start of a line. -/
def skipSpace (brackets : Bool) (allowed inComment atStart : Bool) : List Char → Bool × List Char
  | [] => (allowed, [])
  | c :: cs =>
    if isBreak c then skipSpace brackets (allowed || !brackets) false true cs
    else if inComment then skipSpace brackets allowed true false cs
    else if atStart && c == '\ufeff' then skipSpace brackets allowed false false cs
    else if c == ' ' || (c == '\t' && (brackets || !allowed)) then
      skipSpace brackets allowed false false cs
    else if c == '#' then skipSpace brackets allowed true false cs
    else (allowed, c :: cs)

/-- Moves to the next token, closing what its column closes. -/
def toNextToken (s : Scan) : Option Scan := do
  let (allowed, rest) := skipSpace s.inBrackets s.keyAllowed false (s.place.column == 0) s.rest
  let s ← ((s.moveTo rest).allowKey allowed).forgetStale
  return s.closeTo s.place.column

/-! ### One token -/

/-- A directive. -/
def directive (s : Scan) : Option Scan := do
  let s ← (s.closeTo (-1)).forgetKey
  let (d, rest) ← Yaml.directive s.rest
  return ((s.allowKey false).moveTo rest).emit (.directive d)

/-- Begins or ends a document. -/
def documentMark (s : Scan) (t : Token) : Option Scan := do
  let s ← (s.closeTo (-1)).forgetKey
  return ((s.allowKey false).skip 3).emit t

/-- An opening bracket. -/
def openBracket (s : Scan) (t : Token) : Option Scan := do
  let s ← s.rememberKey
  return (({ s with keys := none :: s.keys }.allowKey true).skip 1).emit t

/-- A closing bracket. -/
def closeBracket (s : Scan) (t : Token) : Option Scan := do
  let s ← s.forgetKey
  let keys := if s.inBrackets then s.keys.drop 1 else s.keys
  return (({ s with keys := keys }.allowKey false).skip 1).emit t

/-- A comma. -/
def comma (s : Scan) : Option Scan := do
  let s ← s.forgetKey
  return ((s.allowKey true).skip 1).emit .comma

/-- The dash of an item; outside of brackets it opens a sequence. -/
def item (s : Scan) : Option Scan := do
  if !s.inBrackets && !s.keyAllowed then none
  else
    let s ← (s.openAt s.place.column s.tokens.size .sequenceStart).forgetKey
    return ((s.allowKey true).skip 1).emit .item

/-- The question mark of a key. -/
def explicitKey (s : Scan) : Option Scan := do
  if !s.inBrackets && !s.keyAllowed then none
  else
    let s ← (s.openAt s.place.column s.tokens.size .mappingStart).forgetKey
    return ((s.allowKey !s.inBrackets).skip 1).emit .key

/-- The colon of a value: it makes a key of what stands before it, or follows an explicit key. -/
def value (s : Scan) : Option Scan :=
  match s.keys with
  | some k :: ks =>
    let s := (s.insertAt k.count .key).openAt k.place.column k.count .mappingStart
    some ((({ s with keys := none :: ks }.allowKey false).skip 1).emit .value)
  | _ =>
    if !s.inBrackets && !s.keyAllowed then none
    else
      let s := s.openAt s.place.column s.tokens.size .mappingStart
      some (((s.allowKey !s.inBrackets).skip 1).emit .value)

/-- Whether the characters may follow the name of an anchor. -/
def endsName : List Char → Bool
  | [] => true
  | c :: cs =>
    endsWord (c :: cs) || c == '?' || c == ':' || c == ',' || c == ']' || c == '\x7d' || c == '%' ||
      c == '@' || c == '\x60'

/-- An anchor or an alias. -/
def anchorWith (s : Scan) (t : String → Token) : Option Scan := do
  let s ← s.rememberKey
  let body := s.rest.drop 1
  let name := body.takeWhile isNameChar
  let rest := body.dropWhile isNameChar
  if name.isEmpty || !endsName rest then none
  else return ((s.allowKey false).moveTo rest).emit (t (String.ofList name))

/-- A tag. -/
def tag (s : Scan) : Option Scan := do
  let s ← s.rememberKey
  let (name, rest) ← tagName s.rest
  if endsWord rest || (s.inBrackets && rest.head? == some ',') then
    return ((s.allowKey false).moveTo rest).emit (.tag name)
  else none

/-- A block of lines. -/
def block (s : Scan) (literal : Bool) : Option Scan := do
  let s ← s.forgetKey
  let (text, rest) ← blockText literal s.indent (s.rest.drop 1)
  return ((s.allowKey true).moveTo rest).emit (.scalar (String.ofList text) false)

/-- A scalar between quotes. -/
def quoted (s : Scan) (read : List Char → Option (List Char × List Char)) : Option Scan := do
  let s ← s.rememberKey
  let (text, rest) ← read (s.rest.drop 1)
  return ((s.allowKey false).moveTo rest).emit (.scalar (String.ofList text) false)

/-- A plain scalar; if a line break follows it, a key may begin. -/
def plainScalar (s : Scan) : Option Scan := do
  let s ← s.rememberKey
  let p ← plain ⟨s.inBrackets, (s.indent + 1).toNat⟩ s.place.column s.rest
  return ((s.allowKey p.brokenAfter).moveTo p.rest).emit (.scalar (String.ofList p.text) true)

/-- Whether a plain scalar cannot begin with the character, or only if the next one allows it. -/
def isIndicator (c : Char) : Bool :=
  isBlank c || "-?:,[]\x7b\x7d#&*!|>'\"%@\x60".toList.contains c

/-- Whether a plain scalar begins with the character, given what follows. -/
def beginsPlain (brackets : Bool) (c : Char) (next : List Char) : Bool :=
  !isIndicator c || (c == '-' && !(next.head?.map isBlank).getD false) ||
    (!brackets && (c == '?' || c == ':') && !endsWord next)

/-- Reads the token that begins here. -/
def token (s : Scan) (c : Char) (next : List Char) : Option Scan :=
  let atStart := s.place.column == 0
  if atStart && c == '%' then s.directive
  else if atStart && isDocumentMark (c :: next) then
    s.documentMark (if c == '-' then .documentStart else .documentEnd)
  else if c == '[' then s.openBracket .bracketOpen
  else if c == '\x7b' then s.openBracket .braceOpen
  else if c == ']' then s.closeBracket .bracketClose
  else if c == '\x7d' then s.closeBracket .braceClose
  else if c == ',' then s.comma
  else if c == '-' && endsWord next then s.item
  else if c == '?' && (s.inBrackets || endsWord next) then s.explicitKey
  else if c == ':' && (s.inBrackets || endsWord next) then s.value
  else if c == '*' then s.anchorWith .alias
  else if c == '&' then s.anchorWith .anchor
  else if c == '!' then s.tag
  else if c == '|' && !s.inBrackets then s.block true
  else if c == '>' && !s.inBrackets then s.block false
  else if c == '\'' then s.quoted (singleQuoted false [] .empty)
  else if c == '"' then s.quoted (doubleQuoted false [] .empty)
  else if beginsPlain s.inBrackets c next then s.plainScalar
  else none

/-- Ends the stream: everything is closed, and no required key may be missing. -/
def finish (s : Scan) : Option (List Token) := do
  let s ← (s.closeTo (-1)).forgetKey
  return s.tokens.toList

/-- Reads up to the end of the stream, with at most so many tokens. -/
def all : Nat → Scan → Option (List Token)
  | 0, _ => none
  | n + 1, s => do
    let s ← s.toNextToken
    match s.rest with
    | [] => s.finish
    | c :: next => all n (← s.token c next)

end Scan

/-- The tokens of a stream; every token takes up at least one of its characters. -/
def tokens? (stream : String) : Option (List Token) :=
  let cs := stream.toList
  if cs.all isAllowed then
    let body := lineFeeds cs
    Scan.all (body.length + 2) (Scan.start body)
  else none

end Yaml

end JellyViews
