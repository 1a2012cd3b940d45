/-
**Balanced output.**

A program writes with the operations of a context and with calls, whose bodies are programs again.
It sees how each part of it ends and what the context looks like, and goes on as it likes: it may
swallow an error, or fail for a reason of its own.  Whatever a program does from an empty context
on, the tags that it has written can be replayed, and the open elements of the context are what the
replay arrives at.  So the rendering can be finished exactly if its tags are nested in each other.

Main definitions:

* `Tag.Program` — steps that write with the operations of a context and with calls;
* `Markup.Render.outcome` — running a step, with its error as the result.

Main results:

* `Tag.Program.of_compositional` — what elements keep holds of programs;
* `Tag.Program.tracks` — **programs keep contexts tracked**;
* `Tag.compositional_program`, `Tag.program_runScript` — scripts are programs;
* `Tag.output_balanced` — **the tags that a program writes are balanced**;
* `Tag.output_balanced_swallowed` — a program that swallows errors in a body and outside.
-/

import JellyViews.Proofs.Markup.Nesting
import JellyViews.Proofs.Tag.CallStyles

set_option relaxedAutoImplicit false
set_option autoImplicit false

namespace JellyViews

namespace Markup

namespace Render

/-- Runs a step; an error is a result. -/
def outcome (step : Render Unit) : Render (Except TagError Unit) := ExceptT.lift (ExceptT.run step)

@[simp] theorem on_outcome (step : Render Unit) (c : Context) :
    (outcome step).on c = (.ok (step.on c).1, (step.on c).2) := rfl

@[simp] theorem on_outcome_bind (step : Render Unit) (next : Except TagError Unit → Render Unit)
    (c : Context) :
    (outcome step >>= next).on c = (next (step.on c).1).on (step.on c).2 := by
  rw [on_bind, on_outcome]

@[simp] theorem on_get_bind (next : Context → Render Unit) (c : Context) :
    Render.on (get >>= next) c = (next c).on c := rfl

theorem ext {step step' : Render Unit} (h : ∀ c, step.on c = step'.on c) : step = step' :=
  funext h

/-- Going on only after a success is one way of going on. -/
theorem bind_eq_outcome (step step' : Render Unit) :
    (step >>= fun _ => step') = outcome step >>= fun
      | .ok _ => step'
      | .error e => throw e := by
  apply ext
  intro c
  rw [on_bind, on_outcome_bind]
  rcases step.on c with ⟨e | u, c'⟩ <;> rfl

end Render

end Markup

namespace Tag

open Markup

/-- A step that recovers writes what it wrote before, and its error is recorded. -/
theorem on_recovered (step : Render Unit) (c : Context) :
    (recovered step).on c =
      match step.on c with
      | (.ok u, c') => (.ok u, c')
      | (.error e, c') => Render.on (record fun depth => .caught e depth) c' := by
  have hcatch : (recovered step).on c =
      StateT.run (ExceptT.tryCatch step fun e => record fun depth => .caught e depth) c := rfl
  rw [hcatch, ExceptT.tryCatch, ExceptT.mk, StateT.run_bind]
  rcases hstep : step.on c with ⟨e | u, c'⟩
  · have hrun : StateT.run step c = (.error e, c') := hstep
    rw [hrun]
    rfl
  · have hrun : StateT.run step c = (.ok u, c') := hstep
    rw [hrun]
    rfl

/-- Recovering from an error is one way of going on, too. -/
theorem recovered_eq_outcome (step : Render Unit) :
    recovered step = step.outcome >>= fun
      | .ok _ => pure ()
      | .error e => record fun depth => .caught e depth := by
  apply Render.ext
  intro c
  rw [on_recovered, Render.on_outcome_bind]
  rcases step.on c with ⟨e | u, c'⟩ <;> rfl

/-! ### Programs -/

/-- A step that writes with the operations of a context and with calls.  It may look at the context,
and its parts may go on after errors. -/
inductive Program (r : Registry) : Render Unit → Prop where
  | done : Program r (pure ())
  | fail (e : TagError) : Program r (throw e)
  | append (text : String) : Program r (append text)
  | voidTag (name : String) (attrs : Attributes) : Program r (voidTag name attrs)
  | openTag (name : String) (attrs : Attributes) : Program r (openTag name attrs)
  | closeTag (name : String) : Program r (closeTag name)
  | element (name : String) (attrs : Attributes) {body : Option Block} (scope : Scope) :
      (∀ b ∈ body, ∀ s, Program r (b s)) → Program r (element name attrs body scope)
  | emit (name : String) (call : Call) {body : Option Block} :
      (∀ b ∈ body, ∀ s, Program r (b s)) → Program r (r.emit name call body)
  | notes (f : Context → Array Note) : Program r (modify fun c => { c with notes := f c })
  | look {next : Context → Render Unit} : (∀ c, Program r (next c)) → Program r (get >>= next)
  | after {step : Render Unit} {next : Except TagError Unit → Render Unit} :
      Program r step → (∀ result, Program r (next result)) → Program r (step.outcome >>= next)

namespace Program

variable {r : Registry}

theorem bind {step step' : Render Unit} (h : Program r step) (h' : Program r step') :
    Program r (step >>= fun _ => step') := by
  rw [Render.bind_eq_outcome]
  refine .after h fun result => ?_
  cases result with
  | ok u => exact h'
  | error e => exact .fail e

theorem recovered {step : Render Unit} (h : Program r step) : Program r (recovered step) := by
  rw [recovered_eq_outcome]
  refine .after h fun result => ?_
  cases result with
  | ok u => exact .done
  | error e => exact .notes fun c => c.notes.push (.caught e c.depth)

/-- What elements keep, and single tags have, holds of all programs, if it is passed on from the
parts of a program that looks at the context or goes on after errors. -/
theorem of_compositional {P : Render Unit → Prop} (hP : Compositional P)
    (hopen : ∀ name attrs, P (Markup.openTag name attrs))
    (hclose : ∀ name, P (Markup.closeTag name))
    (hlook : ∀ {next : Context → Render Unit}, (∀ c, P (next c)) → P (get >>= next))
    (hafter : ∀ {step : Render Unit} {next : Except TagError Unit → Render Unit},
      P step → (∀ result, P (next result)) → P (step.outcome >>= next))
    {step : Render Unit} (h : Program r step) : P step := by
  induction h with
  | done => exact hP.done
  | fail e => exact hP.fail e
  | append text => exact hP.append text
  | voidTag name attrs => exact hP.voidTag name attrs
  | openTag name attrs => exact hopen name attrs
  | closeTag name => exact hclose name
  | element name attrs scope _ ih =>
    exact hP.around name attrs (runBody_of_compositional hP ih scope)
  | emit name call _ ih => exact emit_of_compositional hP r name call ih
  | notes f => exact hP.notes f
  | look _ ih => exact hlook ih
  | after _ _ ihstep ihnext => exact hafter ihstep ihnext

/-- **Programs keep contexts tracked.** -/
theorem tracks {step : Render Unit} (h : Program r step) : step.Tracks := by
  refine of_compositional compositional_tracks tracks_openTag tracks_closeTag ?_ ?_ h
  · intro next hnext c hc
    rw [Render.on_get_bind]
    exact hnext c c hc
  · intro step next hstep hnext c hc
    rw [Render.on_outcome_bind]
    exact hnext _ _ (hstep c hc)

end Program

/-! ### Trees of actions -/

/-- Elements around programs are programs. -/
theorem compositional_program (r : Registry) : Compositional (Program r) where
  done := .done
  fail := .fail
  append := .append
  voidTag := .voidTag
  notes := .notes
  next := .bind
  around name attrs _ h := .bind (.openTag name attrs) (.bind h (.closeTag name))

/-- **Scripts are programs**, also if they recover from errors. -/
theorem program_runScript (r : Registry) (script : List Action) (scope : Scope) :
    Program r (runScript r script scope) := by
  refine runScript_of_compositional (compositional_program r) r script (fun b _ => ?_) scope
  cases b with
  | openTag name attrs => exact .openTag name attrs
  | closeTag name => exact .closeTag name
  | attempt script => exact fun step h => .recovered h
  | _ => trivial

/-! ### Balance -/

/-- An end tag that fails leaves the context as it is. -/
theorem on_closeTag_of_error {name : String} {c : Context} {e : TagError}
    (h : ((closeTag name).on c).1 = .error e) : ((closeTag name).on c).2 = c := by
  rw [on_closeTag] at h ⊢
  cases hopen : c.openElements with
  | nil => rfl
  | cons top rest =>
    rw [hopen] at h
    dsimp only at h ⊢
    split at h
    · simp at h
    · rename_i htop
      rw [if_neg htop]

/-- **The tags that a program writes are balanced**, whatever fails in it.  They can be replayed,
which arrives at the open elements; so the rendering can be finished exactly if its tags are nested,
and otherwise the error names the elements that are left open, from the outermost in.  A single end
tag that fails leaves the context as it is. -/
theorem output_balanced {r : Registry} {step : Render Unit} (h : Program r step) :
    let c := (step.on Context.empty).2
    replay [] c.pieces = some c.openElements ∧
      (∀ t, c.finish = .ok t ↔ Nested c.pieces ∧ c.text = t) ∧
      (∀ e, c.finish = .error e ↔
        ∃ names, names ≠ [] ∧ Leaves c.pieces names ∧ e = .unclosedTags names) ∧
      ∀ (d : Context) (name : String) (e : TagError),
        ((closeTag name).on d).1 = .error e → ((closeTag name).on d).2 = d := by
  intro c
  have hc : c.Tracked := h.tracks Context.empty Context.tracked_empty
  refine ⟨hc, fun t => hc.finish_eq_ok, fun e => hc.finish_eq_error, ?_⟩
  intro d name e hfail
  exact on_closeTag_of_error hfail

/-- A script that swallows two errors.  The first one leaves two elements open, and the body of a
section closes the inner one of them after the second error. -/
def swallowing : List Action :=
  [.attempt [.element "a" ∅ (some [.openTag "b" ∅, .closeTag "a"]) none],
    .attempt [.emit "section" ∅ (some [.attempt [.closeTag "b"], .closeTag "f:section",
      .closeTag "b"])]]

/-- The first element is still open after it. -/
theorem output_balanced_swallowed :
    let c := ((runScript Registry.standard swallowing .plain).on Context.empty).2
    Leaves c.pieces ["a"] ∧ c.text = "<a><b><f:section></f:section></b>" ∧
      c.finish = .error (.unclosedTags ["a"]) := by
  have hbalanced := output_balanced (program_runScript Registry.standard swallowing .plain)
  obtain ⟨names, -, hleaves, hnames⟩ := (hbalanced.2.2.1 (.unclosedTags ["a"])).1 rfl
  obtain rfl : ["a"] = names := by simpa using hnames
  exact ⟨hleaves, rfl, rfl⟩

end Tag

end JellyViews
