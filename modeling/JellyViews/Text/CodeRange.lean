/-
**Sets of code points, as ranges.**

The tables of character classes (`Text/Blank.lean`, `Text/Printable.lean`, `Text/Lowercase.lean`,
`Text/Word.lean`, `Text/WidthClass.lean`) are lists of ranges, both ends included.

Main definitions:

* `CodeRange` — the code points from `first` to `last`;
* `CodeRange.covers` — whether a list of ranges holds a character.
-/

set_option relaxedAutoImplicit false
set_option autoImplicit false

namespace JellyViews

/-- The code points from `first` to `last`, both included. -/
structure CodeRange where
  first : Nat
  last : Nat

namespace CodeRange

/-- The range of a pair. -/
def ofPair : Nat × Nat → CodeRange
  | (a, b) => ⟨a, b⟩

/-- Whether a code point lies in the range. -/
def holds (r : CodeRange) (n : Nat) : Bool := r.first ≤ n && n ≤ r.last

/-- Whether one of the ranges holds the character. -/
def covers (rs : List CodeRange) (c : Char) : Bool := rs.any fun r => r.holds c.toNat

@[simp] theorem covers_nil (c : Char) : covers [] c = false := rfl

@[simp] theorem covers_cons (r : CodeRange) (rs : List CodeRange) (c : Char) :
    covers (r :: rs) c = (r.holds c.toNat || covers rs c) := rfl

end CodeRange

end JellyViews
