/-
**Tidying scripts.**

Two scripts of the same length can differ in where an insertion stands among equal lines.  Each
deletion, and then each insertion, is moved up as far as it goes and down again; on its way it joins
others of its kind.  In the end neighbouring deletions and insertions become replacements.

Main definitions:

* `Diff.Spot` — a step of a script with what stands before and after it;
* `Diff.Spot.up`, `Diff.Spot.down` — moving a step;
* `Diff.tidy` — the tidied script;
* `Diff.merged` — the script with replacements.
-/

import JellyViews.Diff.Edit

set_option relaxedAutoImplicit false
set_option autoImplicit false

namespace JellyViews

namespace Diff

/-! ### Changing the ends of a step -/

namespace Edit

/-- The step `n` lines earlier. -/
def earlier (n : Nat) : Edit → Edit
  | equal old new size => equal (old - n) (new - n) size
  | delete old new size => delete (old - n) (new - n) size
  | insert old new size => insert (old - n) (new - n) size
  | e => e

/-- The step `n` lines later. -/
def later (n : Nat) : Edit → Edit
  | equal old new size => equal (old + n) (new + n) size
  | delete old new size => delete (old + n) (new + n) size
  | insert old new size => insert (old + n) (new + n) size
  | e => e

/-- The step with `n` more lines at its end. -/
def longer (n : Nat) : Edit → Edit
  | equal old new size => equal old new (size + n)
  | delete old new size => delete old new (size + n)
  | insert old new size => insert old new (size + n)
  | e => e

/-- The step without its last `n` lines. -/
def shorter (n : Nat) : Edit → Edit
  | equal old new size => equal old new (size - n)
  | delete old new size => delete old new (size - n)
  | insert old new size => insert old new (size - n)
  | e => e

/-- Whether the step deletes lines. -/
def isDelete : Edit → Bool
  | delete _ _ _ => true
  | _ => false

/-- Whether the step inserts lines. -/
def isInsert : Edit → Bool
  | insert _ _ _ => true
  | _ => false

/-- Whether the step keeps lines. -/
def isEqual : Edit → Bool
  | equal _ _ _ => true
  | _ => false

end Edit

/-- A step, unless it is empty, in front of others. -/
def consNonempty (e : Edit) (es : List Edit) : List Edit := if e.isEmpty then es else e :: es

/-! ### Moving a step -/

/-- A step of a script, with the steps before it, nearest first, and the steps after it. -/
structure Spot where
  before : List Edit
  edit : Edit
  after : List Edit

namespace Spot

/-- Lets kept lines after the step begin `n` lines earlier; there may have been none. -/
def keepAfter (prev : Edit) (edit : Edit) (n : Nat) : List Edit → List Edit
  | .equal old new size :: r => .equal (old - n) (new - n) (size + n) :: r
  | es => .equal (prev.oldSpan.last - n) (edit.newSpan.last - n) n :: es

/-- Lets kept lines before the step end `n` lines later; there may have been none. -/
def keepBefore (next : Edit) (edit : Edit) (n : Nat) : List Edit → List Edit
  | .equal old new size :: r => .equal old new (size + n) :: r
  | es => .equal next.oldSpan.first edit.newSpan.first n :: es

/-- Moves a step up, at most so many times. -/
def up (lines : Pair) : Nat → Spot → Spot
  | 0, s => s
  | n + 1, ⟨before, edit, after⟩ =>
    match before with
    | [] => ⟨[], edit, after⟩
    | prev :: rest =>
      if prev.isEqual then
        let common := lines.commonSuffix prev.oldSpan edit.newSpan
        if 0 < common then
          up lines n
            ⟨consNonempty (prev.shorter common) rest, edit.earlier common,
              keepAfter prev edit common after⟩
        else if prev.isEmpty then up lines n ⟨rest, edit, after⟩
        else ⟨prev :: rest, edit, after⟩
      else if prev.isInsert == edit.isInsert then
        up lines n
          ⟨rest, prev.longer (edit.oldSpan.size + edit.newSpan.size), after⟩
      else up lines n ⟨rest, edit, prev :: after⟩

/-- Moves a step down, at most so many times. -/
def down (lines : Pair) : Nat → Spot → Spot
  | 0, s => s
  | n + 1, ⟨before, edit, after⟩ =>
    match after with
    | [] => ⟨before, edit, []⟩
    | next :: rest =>
      if next.isEqual then
        let common := lines.commonPrefix next.oldSpan edit.newSpan
        if 0 < common then
          down lines n
            ⟨keepBefore next edit common before, edit.later common,
              consNonempty ((next.later common).shorter common) rest⟩
        else if next.isEmpty then down lines n ⟨before, edit, rest⟩
        else ⟨before, edit, next :: rest⟩
      else if next.isInsert == edit.isInsert then
        down lines n
          ⟨before, edit.longer (next.oldSpan.size + next.newSpan.size), rest⟩
      else down lines n ⟨next :: before, edit, rest⟩

end Spot

/-! ### Tidying -/

/-- Moves every step of a kind, one after the other, with at most so many moves; `before` holds the
steps that are done, nearest first. -/
def tidyKind (lines : Pair) (isKind : Edit → Bool) (bound : Nat) :
    Nat → List Edit → List Edit → List Edit
  | 0, before, after => before.reverse ++ after
  | _ + 1, before, [] => before.reverse
  | n + 1, before, e :: after =>
    if isKind e then
      let s := (Spot.down lines bound (Spot.up lines bound ⟨before, e, after⟩))
      tidyKind lines isKind bound n (s.edit :: s.before) s.after
    else tidyKind lines isKind bound n (e :: before) after

/-- A bound on the number of moves. -/
def moveLimit (lines : Pair) (es : List Edit) : Nat :=
  Nat.pow (lines.old.size + lines.new.size + es.length + 2) 2

/-- The script with its deletions, and then its insertions, moved. -/
def tidy (lines : Pair) (es : List Edit) : List Edit :=
  let n := moveLimit lines es
  tidyKind lines Edit.isInsert n n [] (tidyKind lines Edit.isDelete n n [] es)

/-! ### Replacements -/

/-- Deletions and insertions that wait for what follows them. -/
structure Waiting where
  delete : Option Edit
  insert : Option Edit

namespace Waiting

/-- Nothing waits. -/
def none : Waiting := ⟨Option.none, Option.none⟩

/-- One more step waits: it joins the one of its kind that waits already. -/
def joined (e : Edit) : Option Edit → Option Edit
  | some d => some (d.longer (e.oldSpan.size + e.newSpan.size))
  | Option.none => some e

/-- Kept lines join those that were kept directly before them. -/
def joinedKept (e : Edit) : Option Edit → Option Edit
  | some k => some (k.longer e.oldSpan.size)
  | Option.none => some e

/-- The step of what waits: a replacement for a deletion and an insertion. -/
def flush (w : Waiting) : List Edit :=
  match w.delete, w.insert with
  | some d, some i =>
    [.replace d.oldSpan.first d.oldSpan.size i.newSpan.first i.newSpan.size]
  | some d, Option.none => [d]
  | Option.none, some i => [i]
  | Option.none, Option.none => []

end Waiting

/-- The script with replacements; kept lines that follow each other become one step. -/
def mergedFrom (w : Waiting) (kept : Option Edit) : List Edit → List Edit
  | [] => kept.toList ++ w.flush
  | e :: es =>
    if e.isEqual then
      w.flush ++ mergedFrom .none (Waiting.joinedKept e kept) es
    else if e.isDelete then
      kept.toList ++ mergedFrom { w with delete := Waiting.joined e w.delete } none es
    else kept.toList ++ mergedFrom { w with insert := Waiting.joined e w.insert } none es

/-- The script with replacements. -/
def merged (es : List Edit) : List Edit := mergedFrom .none none es

end Diff

end JellyViews
