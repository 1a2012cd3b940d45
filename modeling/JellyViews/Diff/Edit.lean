/-
**Edits between two rows of lines.**

A script says which rows of lines are kept, deleted and inserted.  It is found by divide and
conquer: common lines at both ends are kept, and between them a search from both ends at once
finds a point through which a shortest script passes.

Main definitions:

* `Diff.linesOf` — the lines of a text;
* `Diff.Edit`, `Diff.Span` — a step of a script, and the lines it is about;
* `Diff.Field.meeting` — a point on a shortest script;
* `Diff.script` — the script between two rows of lines.
-/

set_option relaxedAutoImplicit false
set_option autoImplicit false

namespace JellyViews

namespace Diff

/-! ### Lines -/

/-- The lines of characters, each with the break at its end: a carriage return, a line feed, or both
in this order. -/
def splitLines : List Char → List (List Char)
  | [] => []
  | '\r' :: '\n' :: cs => ['\r', '\n'] :: splitLines cs
  | c :: cs =>
    if c = '\r' ∨ c = '\n' then [c] :: splitLines cs
    else
      match splitLines cs with
      | [] => [[c]]
      | l :: ls => (c :: l) :: ls

/-- The lines of a text. -/
def linesOf (s : String) : List String := (splitLines s.toList).map String.ofList

/-! ### Edits -/

/-- The lines from number `first` up to, but without, number `last`. -/
structure Span where
  first : Nat
  last : Nat
deriving DecidableEq

/-- The number of lines in a span. -/
def Span.size (s : Span) : Nat := s.last - s.first

/-- One step of a script: the line numbers at which it begins in the old and the new lines, and how
many lines it is about. -/
inductive Edit where
  | equal (old new size : Nat)
  | delete (old new size : Nat)
  | insert (old new size : Nat)
  /-- Old lines and new lines in their stead. -/
  | replace (old oldSize new newSize : Nat)
deriving DecidableEq

namespace Edit

/-- The old lines of a step. -/
def oldSpan : Edit → Span
  | equal old _ size => ⟨old, old + size⟩
  | delete old _ size => ⟨old, old + size⟩
  | insert old _ _ => ⟨old, old⟩
  | replace old oldSize _ _ => ⟨old, old + oldSize⟩

/-- The new lines of a step. -/
def newSpan : Edit → Span
  | equal _ new size => ⟨new, new + size⟩
  | delete _ new _ => ⟨new, new⟩
  | insert _ new size => ⟨new, new + size⟩
  | replace _ _ new newSize => ⟨new, new + newSize⟩

/-- Whether the step is about no lines. -/
def isEmpty (e : Edit) : Bool := e.oldSpan.size == 0 && e.newSpan.size == 0

end Edit

/-! ### Common lines -/

/-- Two rows of lines. -/
structure Pair where
  old : Array String
  new : Array String

namespace Pair

/-- How many lines are the same at the beginnings of two spans, of at most `n` lines. -/
def samePrefix (p : Pair) : Nat → Nat → Nat → Nat
  | 0, _, _ => 0
  | n + 1, i, j =>
    if p.old[i]? == p.new[j]? then 1 + samePrefix p n (i + 1) (j + 1) else 0

/-- How many lines are the same before two line numbers, of at most `n` lines. -/
def sameSuffix (p : Pair) : Nat → Nat → Nat → Nat
  | 0, _, _ => 0
  | n + 1, i, j =>
    if p.old[i - 1]? == p.new[j - 1]? then 1 + sameSuffix p n (i - 1) (j - 1) else 0

/-- How many lines are the same at the beginnings of two spans. -/
def commonPrefix (p : Pair) (a b : Span) : Nat :=
  p.samePrefix (min a.size b.size) a.first b.first

/-- How many lines are the same at the ends of two spans. -/
def commonSuffix (p : Pair) (a b : Span) : Nat :=
  p.sameSuffix (min a.size b.size) a.last b.last

end Pair

/-! ### The search from both ends -/

/-- How far the search has come on each diagonal: a diagonal has a number, which may be negative. -/
structure Reach where
  offset : Nat
  values : Array Nat

namespace Reach

/-- No progress on any of the diagonals from `-offset` to `offset`. -/
def start (offset : Nat) : Reach := ⟨offset, Array.replicate (2 * offset + 1) 0⟩

/-- The index of a diagonal. -/
def index (r : Reach) (k : Int) : Nat := (k + (r.offset : Int)).toNat

/-- The progress on a diagonal. -/
def get (r : Reach) (k : Int) : Nat := r.values.getD (r.index k) 0

/-- Sets the progress on a diagonal. -/
def set (r : Reach) (k : Int) (x : Nat) : Reach :=
  { r with values := r.values.setIfInBounds (r.index k) x }

/-- Where the next row on a diagonal starts, after `d` steps: beside the farther neighbour. -/
def next (r : Reach) (d k : Int) : Nat :=
  if k = -d ∨ (k ≠ d ∧ r.get (k - 1) < r.get (k + 1)) then r.get (k + 1) else r.get (k - 1) + 1

end Reach

/-- The two halves of the search. -/
structure Search where
  forward : Reach
  backward : Reach

/-- What the search works on: the lines and the spans between which a script is sought. -/
structure Field where
  lines : Pair
  old : Span
  new : Span

namespace Field

/-- The diagonal of the far corner. -/
def delta (f : Field) : Int := (f.old.size : Int) - (f.new.size : Int)

/-- Whether the shortest script has an odd number of steps. -/
def isOdd (f : Field) : Bool := f.delta % 2 != 0

/-- The number of common lines from a point on, if it lies inside of the spans. -/
def advance (f : Field) (x : Nat) (y : Int) : Nat :=
  if x < f.old.size ∧ 0 ≤ y ∧ y < (f.new.size : Int) then
    f.lines.commonPrefix ⟨f.old.first + x, f.old.last⟩ ⟨f.new.first + y.toNat, f.new.last⟩
  else 0

/-- The number of common lines up to a point, counted from the ends of the spans. -/
def retreat (f : Field) (x : Nat) (y : Int) : Nat :=
  if x < f.old.size ∧ 0 ≤ y ∧ y < (f.new.size : Int) then
    f.lines.commonSuffix ⟨f.old.first, f.old.last - x⟩ ⟨f.new.first, f.new.last - y.toNat⟩
  else 0

/-- Whether the two halves have met on a diagonal. -/
def met (f : Field) (there back : Nat) : Bool := decide (f.old.size ≤ there + back)

/-- One step of the forward half on the diagonals `k`, `k - 2`, …: the new state, or a point where
it meets the other half. -/
def forwardStep (f : Field) (d : Int) : Nat → Int → Search → Search ⊕ (Nat × Nat)
  | 0, _, s => .inl s
  | n + 1, k, s =>
    let x := s.forward.next d k
    let y : Int := (x : Int) - k
    let x' := x + f.advance x y
    let s := { s with forward := s.forward.set k x' }
    if f.isOdd && decide ((k - f.delta).natAbs < d) && f.met x' (s.backward.get (f.delta - k)) then
      .inr (f.old.first + x, f.new.first + y.toNat)
    else forwardStep f d n (k - 2) s

/-- One step of the backward half. -/
def backwardStep (f : Field) (d : Int) : Nat → Int → Search → Search ⊕ (Nat × Nat)
  | 0, _, s => .inl s
  | n + 1, k, s =>
    let x := s.backward.next d k
    let y : Int := (x : Int) - k
    let common := f.retreat x y
    let x' := x + common
    let y' := y + (common : Int)
    let s := { s with backward := s.backward.set k x' }
    if !f.isOdd && decide ((k - f.delta).natAbs ≤ d) && f.met x' (s.forward.get (f.delta - k)) then
      .inr (f.old.first + f.old.size - x', f.new.first + f.new.size - y'.toNat)
    else backwardStep f d n (k - 2) s

/-- The search for `steps` more steps, `d` having been made. -/
def searchFrom (f : Field) : Nat → Nat → Search → Option (Nat × Nat)
  | 0, _, _ => none
  | steps + 1, d, s =>
    match f.forwardStep d (d + 1) d s with
    | .inr q => some q
    | .inl s =>
      match f.backwardStep d (d + 1) d s with
      | .inr q => some q
      | .inl s => searchFrom f steps (d + 1) s

/-- The number of steps after which the halves have met. -/
def stepLimit (f : Field) : Nat := (f.old.size + f.new.size + 1) / 2 + 1

/-- A point through which a shortest script passes. -/
def meeting (f : Field) : Option (Nat × Nat) :=
  let reach := Reach.start (f.stepLimit + 1)
  f.searchFrom f.stepLimit 0 ⟨reach, reach⟩

end Field

/-! ### Scripts -/

/-- A step, unless it is about no lines. -/
def step (e : Edit) : List Edit := if e.isEmpty then [] else [e]

/-- The script between two spans, divided at most so many times. -/
def scriptBetween (lines : Pair) : Nat → Span → Span → List Edit
  | 0, old, new => step (.delete old.first new.first old.size) ++
      step (.insert old.first new.first new.size)
  | n + 1, old, new =>
    let before := lines.commonPrefix old new
    let a : Span := ⟨old.first + before, old.last⟩
    let b : Span := ⟨new.first + before, new.last⟩
    let after := lines.commonSuffix a b
    let a : Span := ⟨a.first, a.last - after⟩
    let b : Span := ⟨b.first, b.last - after⟩
    let middle :=
      if a.size = 0 ∨ b.size = 0 then
        step (.delete a.first b.first a.size) ++ step (.insert a.first b.first b.size)
      else
        match Field.meeting ⟨lines, a, b⟩ with
        | some (x, y) =>
          scriptBetween lines n ⟨a.first, x⟩ ⟨b.first, y⟩ ++
            scriptBetween lines n ⟨x, a.last⟩ ⟨y, b.last⟩
        | none => step (.delete a.first b.first a.size) ++ step (.insert a.first b.first b.size)
    step (.equal old.first new.first before) ++ middle ++ step (.equal a.last b.last after)

/-- The script between two rows of lines. -/
def script (lines : Pair) : List Edit :=
  scriptBetween lines (lines.old.size + lines.new.size + 1) ⟨0, lines.old.size⟩
    ⟨0, lines.new.size⟩

end Diff

end JellyViews
