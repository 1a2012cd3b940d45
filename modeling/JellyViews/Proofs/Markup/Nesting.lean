/-
**Start tags and end tags.**

What a context has written is a row of pieces, and its start tags and end tags can be replayed: a
start tag opens an element, and an end tag has to close the innermost open one.

That a row of tags can be replayed is also said without a stack.  A row is nested if each start tag
has an end tag of the same name behind it, with a nested row in between.  A row that is not finished
leaves elements open: their start tags have nested rows before, between and behind them.

A context keeps track of its open elements while it writes, and they are what the replay arrives at.
Steps keep it so, whether they succeed or fail: a single end tag that would spoil it fails before it
writes.

Main definitions:

* `Markup.Piece.nest`, `Markup.replay` — the open elements after one piece, and after a row of them;
* `Markup.Nested` — rows in which every element is closed;
* `Markup.Leaves` — rows that leave elements open, from the outermost in;
* `Markup.Context.Tracked` — the open elements of a context are those that the replay arrives at;
* `Markup.Render.Tracks` — steps that keep contexts tracked.

Main results:

* `Markup.leaves_iff_replay` — **leaving elements open is what the replay finds**;
* `Markup.nested_iff_leaves` — nested rows leave nothing open;
* `Markup.tracks_openTag`, `Markup.tracks_closeTag` — single tags keep contexts tracked;
* `Markup.compositional_tracks` — **and so do elements, if their bodies do**;
* `Markup.Context.Tracked.finish_eq_ok`, `Markup.Context.Tracked.finish_eq_error` — which renderings
  can be finished.
-/

import JellyViews.Proofs.Markup.Steps
import Mathlib.Data.List.Induction

set_option relaxedAutoImplicit false
set_option autoImplicit false

namespace JellyViews

namespace Markup

/-! ### Replaying tags -/

/-- The open elements after a piece, innermost first; there are none after an end tag that does not
close the innermost element. -/
def Piece.nest : List String → Piece → Option (List String)
  | stack, .literal _ => some stack
  | stack, .voidTag _ _ => some stack
  | stack, .startTag name _ => some (name :: stack)
  | top :: stack, .endTag name => if top = name then some stack else none
  | [], .endTag _ => none

/-- The open elements after a row of pieces. -/
def replay (stack : List String) (pieces : List Piece) : Option (List String) :=
  pieces.foldlM Piece.nest stack

@[simp] theorem replay_nil (stack : List String) : replay stack [] = some stack := rfl

@[simp] theorem replay_cons (stack : List String) (p : Piece) (ps : List Piece) :
    replay stack (p :: ps) = (Piece.nest stack p).bind fun stack' => replay stack' ps := rfl

theorem replay_append (stack : List String) (ps qs : List Piece) :
    replay stack (ps ++ qs) = (replay stack ps).bind fun stack' => replay stack' qs :=
  List.foldlM_append

theorem replay_concat (stack : List String) (ps : List Piece) (p : Piece) :
    replay stack (ps ++ [p]) = (replay stack ps).bind fun stack' => Piece.nest stack' p := by
  simp [replay_append]

/-! ### Nested rows -/

/-- Every start tag of the row has its end tag, and they are nested in each other. -/
inductive Nested : List Piece → Prop where
  | done : Nested []
  | literal (text : String) {ps : List Piece} : Nested ps → Nested (.literal text :: ps)
  | voidTag (name : String) (attrs : Attributes) {ps : List Piece} :
      Nested ps → Nested (.voidTag name attrs :: ps)
  | element (name : String) (attrs : Attributes) {inner ps : List Piece} :
      Nested inner → Nested ps → Nested (.startTag name attrs :: (inner ++ .endTag name :: ps))

theorem Nested.append {ps qs : List Piece} (hps : Nested ps) (hqs : Nested qs) :
    Nested (ps ++ qs) := by
  induction hps with
  | done => exact hqs
  | literal text _ ih => exact .literal text ih
  | voidTag name attrs _ ih => exact .voidTag name attrs ih
  | element name attrs hinner _ _ ih =>
    rw [List.cons_append, List.append_assoc, List.cons_append]
    exact .element name attrs hinner ih

/-- A nested row can be replayed on top of any open elements, and leaves them as they were. -/
theorem Nested.replay_eq {ps : List Piece} (h : Nested ps) (stack : List String) :
    replay stack ps = some stack := by
  induction h generalizing stack with
  | done => rfl
  | literal text _ ih => simpa [Piece.nest] using ih stack
  | voidTag name attrs _ ih => simpa [Piece.nest] using ih stack
  | element name attrs _ _ ihinner ih =>
    rw [replay_cons, Piece.nest, Option.bind_some, replay_append, ihinner, Option.bind_some,
      replay_cons, Piece.nest, if_pos rfl, Option.bind_some, ih]

/-! ### Rows that leave elements open -/

/-- The row leaves these elements open, from the outermost in. -/
inductive Leaves : List Piece → List String → Prop where
  | nothing {ps : List Piece} : Nested ps → Leaves ps []
  | start (name : String) (attrs : Attributes) {front ps : List Piece} {names : List String} :
      Nested front → Leaves ps names → Leaves (front ++ .startTag name attrs :: ps) (name :: names)

/-- A row is nested exactly if it leaves nothing open. -/
theorem nested_iff_leaves {ps : List Piece} : Nested ps ↔ Leaves ps [] := by
  constructor
  · exact .nothing
  · intro h
    cases h with
    | nothing hps => exact hps

theorem Leaves.replay_eq {ps : List Piece} {names : List String} (h : Leaves ps names)
    (stack : List String) : replay stack ps = some (names.reverse ++ stack) := by
  induction h generalizing stack with
  | nothing hps => exact hps.replay_eq stack
  | start name attrs hfront _ ih =>
    rw [replay_append, hfront.replay_eq, Option.bind_some, replay_cons, Piece.nest,
      Option.bind_some, ih]
    simp

/-- A nested row behind a row changes nothing about what is open. -/
theorem Leaves.append_nested {ps qs : List Piece} {names : List String} (h : Leaves ps names)
    (hqs : Nested qs) : Leaves (ps ++ qs) names := by
  induction h with
  | nothing hps => exact .nothing (hps.append hqs)
  | start name attrs hfront _ ih =>
    rw [List.append_assoc, List.cons_append]
    exact .start name attrs hfront ih

/-- A start tag behind a row leaves one more element open. -/
theorem Leaves.append_start {ps : List Piece} {names : List String} (h : Leaves ps names)
    (name : String) (attrs : Attributes) :
    Leaves (ps ++ [.startTag name attrs]) (names ++ [name]) := by
  induction h with
  | nothing hps => exact .start name attrs hps (.nothing .done)
  | start outer attrs' hfront _ ih =>
    rw [List.append_assoc, List.cons_append]
    exact .start outer attrs' hfront ih

/-- An end tag behind a row closes the innermost element that the row leaves open. -/
theorem Leaves.append_end {ps : List Piece} {name : String} {names : List String}
    (h : Leaves ps (names ++ [name])) : Leaves (ps ++ [.endTag name]) names := by
  generalize hopen : names ++ [name] = es at h
  induction h generalizing names with
  | nothing => simp at hopen
  | @start outer attrs front ps es hfront hps ih =>
    rw [List.append_assoc, List.cons_append]
    cases names with
    | nil =>
      -- the innermost element is the only one, so that what is behind its start tag is nested
      obtain ⟨rfl, rfl⟩ : name = outer ∧ [] = es := by simpa using hopen
      exact .nothing (hfront.append (.element name attrs (nested_iff_leaves.2 hps) .done))
    | cons n names =>
      obtain ⟨rfl, hrest⟩ : n = outer ∧ names ++ [name] = es := by simpa using hopen
      exact .start n attrs hfront (ih hrest)

/-- The open elements after one more piece. -/
theorem Leaves.append_piece {ps : List Piece} {stack stack' : List String} {p : Piece}
    (h : Leaves ps stack.reverse) (hp : Piece.nest stack p = some stack') :
    Leaves (ps ++ [p]) stack'.reverse := by
  cases p with
  | literal text =>
    obtain rfl : stack = stack' := by simpa [Piece.nest] using hp
    exact h.append_nested (.literal text .done)
  | voidTag name attrs =>
    obtain rfl : stack = stack' := by simpa [Piece.nest] using hp
    exact h.append_nested (.voidTag name attrs .done)
  | startTag name attrs =>
    obtain rfl : name :: stack = stack' := by simpa [Piece.nest] using hp
    rw [List.reverse_cons]
    exact h.append_start name attrs
  | endTag name =>
    cases stack with
    | nil => simp [Piece.nest] at hp
    | cons top rest =>
      obtain ⟨rfl, rfl⟩ : top = name ∧ rest = stack' := by simpa [Piece.nest] using hp
      rw [List.reverse_cons] at h
      exact h.append_end

/-- What the replay arrives at is left open.  The open elements are followed from the left, so the
row is taken apart at its end. -/
theorem leaves_of_replay {ps : List Piece} {stack : List String} (h : replay [] ps = some stack) :
    Leaves ps stack.reverse := by
  induction ps using List.reverseRecOn generalizing stack with
  | nil =>
    obtain rfl : [] = stack := by simpa using h
    exact .nothing .done
  | append_singleton ps p ih =>
    rw [replay_concat] at h
    obtain ⟨before, hbefore, hp⟩ := Option.bind_eq_some_iff.1 h
    exact (ih hbefore).append_piece hp

/-- **A row leaves elements open exactly if its replay arrives at them.** -/
theorem leaves_iff_replay {ps : List Piece} {names : List String} :
    Leaves ps names ↔ replay [] ps = some names.reverse := by
  constructor
  · intro h
    rw [h.replay_eq, List.append_nil]
  · intro h
    simpa using leaves_of_replay h

/-! ### Contexts -/

namespace Context

/-- The pieces that were written. -/
def pieces (c : Context) : List Piece := c.buffer.pieces.toList

/-- The open elements are those that the replay of the pieces arrives at. -/
def Tracked (c : Context) : Prop := replay [] c.pieces = some c.openElements

theorem tracked_empty : Tracked empty := rfl

/-- Writing a piece keeps a context tracked, if the open elements are kept up with it.  An empty
piece is not written, but then it is no tag. -/
theorem Tracked.push {c : Context} (h : c.Tracked) {p : Piece} {es : List String}
    (hp : Piece.nest c.openElements p = some es) :
    Tracked { c.push p with openElements := es } := by
  by_cases htext : p.text = ""
  · obtain rfl : c.openElements = es := by
      cases p with
      | literal text => simpa [Piece.nest] using hp
      | _ => simp [Piece.text] at htext
    simpa [Tracked, pieces, Context.push, Buffer.push, htext] using h
  · have hpieces : (c.push p).pieces = c.pieces ++ [p] := by
      simp [pieces, Context.push, Buffer.push, htext]
    change replay [] (c.push p).pieces = some es
    rw [hpieces, replay_concat, h, Option.bind_some, hp]

end Context

/-! ### Steps -/

namespace Render

/-- Whether the step succeeds or fails, a tracked context stays tracked. -/
def Tracks (step : Render Unit) : Prop :=
  ∀ c : Context, c.Tracked → Context.Tracked (step.on c).2

theorem tracks_bind {step step' : Render Unit} (h : step.Tracks) (h' : step'.Tracks) :
    Tracks (step >>= fun _ => step') := by
  intro c hc
  have hstep := h c hc
  rw [on_bind]
  rcases hon : step.on c with ⟨e | u, c₁⟩
  · rwa [hon] at hstep
  · rw [hon] at hstep
    exact h' c₁ hstep

end Render

theorem tracks_openTag (name : String) (attrs : Attributes) : (openTag name attrs).Tracks :=
  fun _ hc => hc.push rfl

/-- An end tag of another name fails before it is written. -/
theorem tracks_closeTag (name : String) : (closeTag name).Tracks := by
  intro c hc
  rw [on_closeTag]
  cases hopen : c.openElements with
  | nil => exact hc
  | cons top rest =>
    dsimp only
    split
    · rename_i htop
      exact hc.push (by rw [hopen, Piece.nest, if_pos htop])
    · exact hc

/-- **Elements keep contexts tracked, if their bodies do.** -/
theorem compositional_tracks : Compositional Render.Tracks where
  done _ hc := hc
  fail _ _ hc := hc
  append text _ hc := hc.push (p := .literal text) rfl
  voidTag name attrs _ hc := hc.push (p := .voidTag name attrs) rfl
  notes _ _ hc := hc
  next := Render.tracks_bind
  around name attrs _ h := Render.tracks_bind (tracks_openTag name attrs)
    (Render.tracks_bind h (tracks_closeTag name))

/-! ### Finished renderings -/

namespace Context.Tracked

variable {c : Context}

/-- What a tracked context leaves open are its open elements. -/
theorem leaves_iff (h : c.Tracked) {names : List String} :
    Leaves c.pieces names ↔ names = c.openElements.reverse := by
  rw [leaves_iff_replay, h, Option.some_inj, ← List.reverse_eq_iff, eq_comm]

/-- A rendering can be finished exactly if its tags are nested. -/
theorem finish_eq_ok (h : c.Tracked) {t : String} :
    c.finish = .ok t ↔ Nested c.pieces ∧ c.text = t := by
  rw [nested_iff_leaves, h.leaves_iff]
  unfold finish
  cases c.openElements <;> simp

/-- A rendering that cannot be finished names the elements that it leaves open. -/
theorem finish_eq_error (h : c.Tracked) {e : TagError} :
    c.finish = .error e ↔
      ∃ names, names ≠ [] ∧ Leaves c.pieces names ∧ e = .unclosedTags names := by
  simp only [h.leaves_iff]
  unfold finish
  cases hopen : c.openElements with
  | nil => simp
  | cons top rest =>
    constructor
    · intro he
      exact ⟨_, by simp, rfl, (Except.error.inj he).symm⟩
    · rintro ⟨names, -, rfl, rfl⟩
      rfl

end Context.Tracked

end Markup

end JellyViews
