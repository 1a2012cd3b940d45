/-
**What is pushed.**

Whatever a program does, it writes by pushing pieces, and its log lists them: each piece that a part
of the program pushed before it ended or failed.  The text of a context is continued by the texts of
these pieces, and the count of pieces grows by those that are not empty.

Main definitions:

* `Markup.Pushes` — what a step pushes, from a context on;
* `Markup.Render.Logged` — steps that write by pushes.

Main results:

* `Markup.Pushes.buffer_eq` — **what was written is what was pushed**;
* `Markup.Pushes.text_eq`, `Markup.Pushes.count_eq` — the text and the count;
* `Markup.compositional_logged`, `Tag.Program.logged` — **programs write by pushes**, whatever fails
  in them.
-/

import JellyViews.Proofs.Tag.Balance

set_option relaxedAutoImplicit false
set_option autoImplicit false

namespace JellyViews

namespace Markup

/-! ### Pushes -/

/-- What a step pushes, from a context on and up to its end or its error.  A step that looks at the
context pushes what it then does, and steps in a row push what each of them pushes. -/
inductive Pushes : Render Unit → Context → List Piece → Prop where
  | done (c : Context) : Pushes (pure ()) c []
  | fail (e : TagError) (c : Context) : Pushes (throw e) c []
  | append (text : String) (c : Context) : Pushes (append text) c [.literal text]
  | voidTag (name : String) (attrs : Attributes) (c : Context) :
      Pushes (voidTag name attrs) c [.voidTag name attrs]
  | openTag (name : String) (attrs : Attributes) (c : Context) :
      Pushes (openTag name attrs) c [.startTag name attrs]
  | closeTag {name : String} {rest : List String} {c : Context} : c.openElements = name :: rest →
      Pushes (closeTag name) c [.endTag name]
  /-- An end tag that does not fit is not pushed. -/
  | unbalanced {name : String} {c : Context} : c.openElements.head? ≠ some name →
      Pushes (closeTag name) c []
  | notes (f : Context → Array Note) (c : Context) :
      Pushes (modify fun c => { c with notes := f c }) c []
  | look {next : Context → Render Unit} {c : Context} {ps : List Piece} :
      Pushes (next c) c ps → Pushes (get >>= next) c ps
  | after {step : Render Unit} {next : Except TagError Unit → Render Unit} {c : Context}
      {ps qs : List Piece} :
      Pushes step c ps → Pushes (next (step.on c).1) (step.on c).2 qs →
      Pushes (step.outcome >>= next) c (ps ++ qs)

namespace Context

theorem buffer_pushAll (c : Context) (ps : List Piece) :
    (c.pushAll ps).buffer = ps.foldl Buffer.push c.buffer := by
  induction ps generalizing c with
  | nil => rfl
  | cons p ps ih => exact ih (c.push p)

/-- Pieces count unless they are empty. -/
theorem count_pushAll (c : Context) (ps : List Piece) :
    (c.pushAll ps).buffer.count = c.buffer.count + ps.countP fun p => p.text ≠ "" := by
  induction ps generalizing c with
  | nil => rfl
  | cons p ps ih =>
    have hpush : (c.push p).buffer.count = _ := Buffer.count_push c.buffer p
    calc ((c.push p).pushAll ps).buffer.count
        = (c.push p).buffer.count + ps.countP fun p => p.text ≠ "" := ih (c.push p)
      _ = c.buffer.count + (p :: ps).countP fun p => p.text ≠ "" := by
        rw [hpush, List.countP_cons]
        by_cases hp : p.text = ""
        · simp [hp]
        · simp [hp, Nat.add_assoc, Nat.add_comm 1]

end Context

namespace Pushes

variable {step : Render Unit} {c : Context} {ps : List Piece}

/-- What was written is what was pushed. -/
theorem buffer_eq (h : Pushes step c ps) :
    (step.on c).2.buffer = (c.pushAll ps).buffer := by
  induction h with
  | closeTag hopen =>
    rw [on_closeTag_of_open hopen]
    rfl
  | unbalanced hopen =>
    rw [on_closeTag_of_unbalanced hopen]
    rfl
  | look _ ih => exact ih
  | after _ _ ihstep ihnext =>
    rw [Render.on_outcome_bind, ihnext, Context.buffer_pushAll, ihstep, Context.buffer_pushAll,
      Context.buffer_pushAll, List.foldl_append]
  | _ => rfl

theorem text_eq (h : Pushes step c ps) :
    (step.on c).2.text = c.text ++ joined (ps.map Piece.text) :=
  (congrArg Buffer.text h.buffer_eq).trans (c.text_pushAll ps)

theorem count_eq (h : Pushes step c ps) :
    (step.on c).2.buffer.count = c.buffer.count + ps.countP fun p => p.text ≠ "" :=
  (congrArg Buffer.count h.buffer_eq).trans (c.count_pushAll ps)

end Pushes

/-! ### Steps that write by pushes -/

/-- From every context on, there is something that the step pushes. -/
def Render.Logged (step : Render Unit) : Prop := ∀ c, ∃ ps, Pushes step c ps

theorem logged_openTag (name : String) (attrs : Attributes) : (openTag name attrs).Logged :=
  fun c => ⟨_, .openTag name attrs c⟩

theorem logged_closeTag (name : String) : (closeTag name).Logged := by
  intro c
  by_cases hopen : c.openElements.head? = some name
  · obtain ⟨rest, hrest⟩ := List.head?_eq_some_iff.1 hopen
    exact ⟨_, .closeTag hrest⟩
  · exact ⟨_, .unbalanced hopen⟩

theorem logged_after {step : Render Unit} {next : Except TagError Unit → Render Unit}
    (h : step.Logged) (hnext : ∀ result, (next result).Logged) :
    Render.Logged (step.outcome >>= next) := by
  intro c
  obtain ⟨ps, hps⟩ := h c
  obtain ⟨qs, hqs⟩ := hnext (step.on c).1 (step.on c).2
  exact ⟨ps ++ qs, .after hps hqs⟩

theorem logged_bind {step step' : Render Unit} (h : step.Logged) (h' : step'.Logged) :
    Render.Logged (step >>= fun _ => step') := by
  rw [Render.bind_eq_outcome]
  refine logged_after h fun result => ?_
  cases result with
  | ok u => exact h'
  | error e => exact fun c => ⟨[], .fail e c⟩

theorem compositional_logged : Compositional Render.Logged where
  done c := ⟨_, .done c⟩
  fail e c := ⟨_, .fail e c⟩
  append text c := ⟨_, .append text c⟩
  voidTag name attrs c := ⟨_, .voidTag name attrs c⟩
  notes f c := ⟨_, .notes f c⟩
  next := logged_bind
  around name attrs _ h :=
    logged_bind (logged_openTag name attrs) (logged_bind h (logged_closeTag name))

end Markup

namespace Tag

open Markup

/-- **Programs write by pushes**, whatever fails in them. -/
theorem Program.logged {r : Registry} {step : Render Unit} (h : Program r step) : step.Logged := by
  refine of_compositional compositional_logged logged_openTag logged_closeTag ?_ logged_after h
  intro next hnext c
  obtain ⟨ps, hps⟩ := hnext c c
  exact ⟨ps, .look hps⟩

end Tag

end JellyViews
