/-
**Reading text from left to right.**

A reader takes a value off the front of a text or fails; an alternative starts again where the
failed reader started.  Repetition ends when the reader fails or takes nothing off, so every reader
built here ends.

Main definitions:

* `Text.Reader` — readers;
* `Text.Reader.exactly`, `Text.Reader.satisfying`, `Text.Reader.run` — characters and rows of them;
* `Text.Reader.many`, `Text.Reader.maybe` — repetition and choice.
-/

set_option relaxedAutoImplicit false
set_option autoImplicit false

namespace JellyViews

namespace Text

/-- A reader takes a value off the front of the text that is left, or fails. -/
abbrev Reader (α : Type) : Type := StateT (List Char) Option α

namespace Reader

variable {α : Type}

/-- The reader that fails. -/
def fail : Reader α := fun _ => none

/-- A row of characters, as given. -/
def exactly (expected : List Char) : Reader Unit := fun s =>
  if expected.isPrefixOf s then some ((), s.drop expected.length) else none

/-- One character of a class. -/
def satisfying (p : Char → Bool) : Reader Char := fun s =>
  match s with
  | c :: cs => if p c then some (c, cs) else none
  | [] => none

/-- The longest row of characters of a class; it may be empty. -/
def run (p : Char → Bool) : Reader (List Char) := fun s => some (s.takeWhile p, s.dropWhile p)

/-- Nothing is left. -/
def atEnd : Reader Unit := fun s =>
  match s with
  | [] => some ((), [])
  | _ :: _ => none

/-- The value, or `none` without taking anything off. -/
def maybe (p : Reader α) : Reader (Option α) := fun s =>
  match p s with
  | some (a, r) => some (some a, r)
  | none => some (none, s)

/-- Repeats a reader up to so many times. -/
def manyUpTo (p : Reader α) : Nat → Reader (List α)
  | 0, s => some ([], s)
  | n + 1, s =>
    match p s with
    | some (a, r) =>
      if r.length < s.length then (manyUpTo p n r).map fun q => (a :: q.1, q.2) else some ([], s)
    | none => some ([], s)

/-- Repeats a reader as long as it takes something off. -/
def many (p : Reader α) : Reader (List α) := fun s => manyUpTo p s.length s

/-- Items with a separator between two of them: at least one item. -/
def separated (separator : Reader Unit) (item : Reader α) : Reader (List α) := do
  let first ← item
  let rest ← many (do separator; item)
  return first :: rest

end Reader

end Text

end JellyViews
