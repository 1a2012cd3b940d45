/-
**Calls only append.**

A call settles what it writes and then writes it around its body, whatever kind of operation it
calls and whatever the body does: the body may fail halfway, and it may swallow errors of its own.
The text of the context is only ever continued, by what is pushed, and each push counts unless it is
empty.  An operation runs its body between pieces of its own and an end tag, or not at all; and a
call that fails without having run the body has not written anything.

Main definitions:

* `Tag.Runs` — how often a step runs the body that it is given;
* `Tag.Refusal` — the errors of calls that are refused.

Main results:

* `Tag.Runs.unique`, `Tag.Operation.runs_cases` — **a body runs once or never**;
* `Tag.refused_of_error` — what fails without running the body writes nothing;
* `Tag.emit_only_appends` — **the law of calls**;
* `Tag.emit_only_appends_halfway` — a body that swallows an error and fails halfway.
-/

import JellyViews.Proofs.Tag.Looping
import JellyViews.Proofs.Tag.Registering
import JellyViews.Proofs.Tag.Settling

set_option relaxedAutoImplicit false
set_option autoImplicit false

namespace JellyViews

namespace Tag

open Markup

/-! ### How often a body runs -/

/-- How often a step runs the body that it is given, whatever this body does. -/
inductive Runs (step : Option Block → Render Unit) : Nat → Prop where
  /-- Never, if no body makes a difference. -/
  | never : (∀ b b', step (some b) = step (some b')) → Runs step 0
  /-- Once, between pieces of the step and an end tag. -/
  | once {name : String} {attrs : Attributes} {front : List Piece} {scope : Scope} :
      RunsOnce step name attrs front scope → Runs step 1

/-- A step that runs its body fails as the body fails. -/
theorem RunsOnce.not_never {step : Option Block → Render Unit} {name : String}
    {attrs : Attributes} {front : List Piece} {scope : Scope}
    (h : RunsOnce step name attrs front scope) : ¬ ∀ b b', step (some b) = step (some b') := by
  intro hnever
  have hfail (e : TagError) : ((step (some fun _ => throw e)).on Context.empty).1 = .error e := by
    rw [h.run]
    rfl
  have heq := congrArg (fun s : Render Unit => (s.on Context.empty).1)
    (hnever (fun _ => throw (.unknownTag "")) (fun _ => throw .invalidUtf8))
  rw [hfail, hfail] at heq
  cases heq

theorem Runs.unique {step : Option Block → Render Unit} {m n : Nat} (h : Runs step m)
    (h' : Runs step n) : m = n := by
  cases h with
  | never hnever =>
    cases h' with
    | never _ => rfl
    | once honce => exact absurd hnever honce.not_never
  | once honce =>
    cases h' with
    | never hnever => exact absurd hnever honce.not_never
    | once _ => rfl

namespace Operation

variable {op : Operation} {call : Call}

/-- An operation that takes a body runs it for every call that it does not refuse. -/
theorem runs_once (hop : op.acceptsBody = true) {hasBody : Bool} {form : Form}
    (h : op.form call hasBody = .ok form) : Runs (op.emit call) 1 := by
  have hsettles := op.settles_form call hasBody
  rw [h] at hsettles
  cases hsettles with
  | void attrs hvoid => rw [hop] at hvoid; cases hvoid
  | around attrs scope option _ =>
    exact .once (runsOnce_of_around fun hasBody' =>
      (form_of_acceptsBody hop call hasBody' hasBody).trans h)

/-- A call that is refused does not run a body. -/
theorem runs_never {e : TagError} (h : op.form call true = .error e) : Runs (op.emit call) 0 := by
  have hthrow (b : Block) : op.emit call (some b) = throw e := by
    rw [emit, Option.isSome_some, h]
  exact .never fun b b' => (hthrow b).trans (hthrow b').symm

/-- **A body runs once or never**, and never if the operation does not take it. -/
theorem runs_cases (op : Operation) (call : Call) :
    op.acceptsBody = true ∧ Runs (op.emit call) 1 ∨ Runs (op.emit call) 0 := by
  cases hform : op.form call true with
  | error e => exact .inr (runs_never hform)
  | ok form =>
    have hsettles := op.settles_form call true
    rw [hform] at hsettles
    cases hsettles with
    | void attrs _ hbody => cases hbody
    | around attrs scope option hop => exact .inl ⟨hop, runs_once hop hform⟩

end Operation

/-! ### Calls that are refused -/

/-- The errors of a call that is refused. -/
inductive Refusal (name : String) : TagError → Prop where
  | unknown : Refusal name (.unknownTag name)
  | missing (arg : String) : Refusal name (.missingArgument name arg)
  | unexpected : Refusal name (.unexpectedBody name)

section

variable {r : Registry} {op : Operation} {name : String} {call : Call} {body : Option Block}
variable {c : Context} {e : TagError}

theorem emit_of_get (h : r.get name = .ok op) : r.emit name call = op.emit call := by
  funext body
  rw [Registry.emit, h]

theorem emit_of_get_error (h : r.get name = .error e) : r.emit name call = fun _ => throw e := by
  funext body
  rw [Registry.emit, h]

theorem eq_unknownTag_of_get (h : r.get name = .error e) : e = .unknownTag name := by
  unfold Registry.get at h
  split at h
  · cases h
  · exact (Except.error.inj h).symm

/-- An operation that settles what it writes fails only in its body. -/
theorem ok_of_form {form : Form} (hform : op.form call body.isSome = .ok form)
    (h : body = none ∨ Runs (op.emit call) 0) : ((op.emit call body).on c).1 = .ok () := by
  have hsettles := op.settles_form call body.isSome
  rw [hform] at hsettles
  cases hsettles with
  | void attrs _ _ =>
    rw [Operation.emit, hform]
    rfl
  | around attrs scope option hop =>
    rcases h with rfl | hnever
    · -- without a body the end tag comes right behind the start tag
      have hopen : (c.inside op.elementName attrs (optionPieces option)).openElements =
          op.elementName :: c.openElements := rfl
      have hclose := on_closeTag_of_open hopen
      rw [on_emit_of_around hform]
      exact congrArg Prod.fst hclose
    · exact absurd (hnever.unique (Operation.runs_once hop hform)) (by decide)

/-- **What fails without running the body writes nothing.** -/
theorem refused_of_error (herror : ((r.emit name call body).on c).1 = .error e)
    (h : body = none ∨ Runs (r.emit name call) 0) :
    ((r.emit name call body).on c).2 = c ∧ Refusal name e := by
  cases hget : r.get name with
  | error e' =>
    obtain rfl := eq_unknownTag_of_get hget
    rw [emit_of_get_error hget] at herror ⊢
    obtain rfl : TagError.unknownTag name = e := Except.error.inj herror
    exact ⟨rfl, .unknown⟩
  | ok op =>
    rw [emit_of_get hget] at herror h ⊢
    cases hform : op.form call body.isSome with
    | ok form =>
      rw [ok_of_form hform h] at herror
      cases herror
    | error e' =>
      rw [on_emit_of_error hform] at herror ⊢
      obtain rfl : e' = e := Except.error.inj herror
      obtain rfl := Registry.name_of_find? (Registry.get_eq_ok_iff.1 hget)
      have hsettles := op.settles_form call body.isSome
      rw [hform] at hsettles
      cases hsettles with
      | missing arg => exact ⟨rfl, .missing arg⟩
      | unexpected _ _ => exact ⟨rfl, .unexpected⟩

/-! ### Bodies of calls -/

theorem exists_runs (r : Registry) (name : String) (call : Call) :
    ∃ n ≤ 1, Runs (r.emit name call) n := by
  cases hget : r.get name with
  | error e =>
    rw [emit_of_get_error hget]
    exact ⟨0, Nat.zero_le 1, .never fun _ _ => rfl⟩
  | ok op =>
    rw [emit_of_get hget]
    rcases op.runs_cases call with ⟨-, honce⟩ | hnever
    · exact ⟨1, le_rfl, honce⟩
    · exact ⟨0, Nat.zero_le 1, hnever⟩

/-- A call that succeeds has run its body, if the operation takes one. -/
theorem runs_once_of_ok (hget : r.get name = .ok op) (hop : op.acceptsBody = true)
    (hok : ((r.emit name call body).on c).1 = .ok ()) : Runs (r.emit name call) 1 := by
  rw [emit_of_get hget] at hok ⊢
  cases hform : op.form call body.isSome with
  | ok form => exact Operation.runs_once hop hform
  | error e =>
    rw [on_emit_of_error hform] at hok
    cases hok

/-- An element without content never runs a body: it refuses it. -/
theorem runs_never_of_void (hget : r.get name = .ok op) (hvoid : op.shape = .void) :
    Runs (r.emit name call) 0 := by
  rw [emit_of_get hget]
  rcases op.runs_cases call with ⟨hop, -⟩ | hnever
  · rw [Operation.acceptsBody, hvoid] at hop
    cases hop
  · exact hnever

end

/-! ### The law of calls -/

/-- **The law of calls.**  Whether a call succeeds or fails, it only appends what it and its body
push, and each push counts unless it is empty.  The body runs once or never: once if a call of an
operation that takes a body succeeds, and never if the element has no content.  A call that fails
without having run a body is refused, and leaves the context as it is. -/
theorem emit_only_appends (r : Registry) (name : String) (call : Call) {body : Option Block}
    (hbody : ∀ b ∈ body, ∀ scope, Program r (b scope)) (c : Context) :
    let step := r.emit name call body
    let after := (step.on c).2
    (∃ pushed, Pushes step c pushed) ∧
    (∀ pushed, Pushes step c pushed →
      after.text = c.text ++ joined (pushed.map Piece.text) ∧
      after.buffer.count = c.buffer.count + pushed.countP fun p => p.text ≠ "") ∧
    (∃ runs ≤ 1, ∀ n, Runs (r.emit name call) n ↔ n = runs) ∧
    (∀ op, r.get name = .ok op →
      (op.acceptsBody = true → (step.on c).1 = .ok () → Runs (r.emit name call) 1) ∧
      (op.shape = .void → Runs (r.emit name call) 0)) ∧
    ∀ e, (step.on c).1 = .error e → body = none ∨ Runs (r.emit name call) 0 →
      after = c ∧ Refusal name e := by
  intro step after
  have hlogged : step.Logged := (Program.emit name call hbody).logged
  obtain ⟨runs, hle, hruns⟩ := exists_runs r name call
  refine ⟨hlogged c, fun pushed h => ⟨h.text_eq, h.count_eq⟩, ⟨runs, hle, fun n => ?_⟩,
    fun op hget => ⟨runs_once_of_ok hget, runs_never_of_void hget⟩, fun e => refused_of_error⟩
  constructor
  · intro hn
    exact hn.unique hruns
  · rintro rfl
    exact hruns

/-- A script that swallows the error of an end tag, and fails with another one. -/
def halfway : List Action :=
  [.append "x", .append "", .attempt [.closeTag "b"], .openTag "c" ∅, .closeTag "d"]

/-- A section around it keeps what was written before the error, and three pushes count; the same
body is refused by an element without content. -/
theorem emit_only_appends_halfway :
    let body := blockOf Registry.standard (some halfway)
    let step := Registry.standard.emit "section" ∅ body
    let refused := Registry.standard.emit "textbox" (Call.ofList [("name", "n")]) body
    (step.on started).1 = .error (.unbalancedClose (some "c") "d") ∧
    (∃ pushed, Pushes step started pushed ∧
      (step.on started).2.text = started.text ++ joined (pushed.map Piece.text) ∧
      (step.on started).2.text = "<a><f:section>x<c>" ∧
      (pushed.countP fun p => p.text ≠ "") = 3) ∧
    (refused.on started).1 = .error (.unexpectedBody "textbox") ∧
    (refused.on started).2 = started := by
  intro body step refused
  have hbody : ∀ b ∈ body, ∀ scope, Program Registry.standard (b scope) := by
    intro b hb scope
    obtain rfl : runScript Registry.standard halfway = b := Option.some.inj hb
    exact program_runScript Registry.standard halfway scope
  obtain ⟨⟨pushed, hpushed⟩, hlaw, -⟩ :=
    emit_only_appends Registry.standard "section" ∅ hbody started
  obtain ⟨-, -, -, hvoid, hrefused⟩ :=
    emit_only_appends Registry.standard "textbox" (Call.ofList [("name", "n")]) hbody started
  refine ⟨rfl, ⟨pushed, hpushed, (hlaw pushed hpushed).1, rfl, ?_⟩, rfl, ?_⟩
  · have hgrown : 4 = 1 + pushed.countP fun p => p.text ≠ "" := (hlaw pushed hpushed).2
    omega
  · exact (hrefused _ rfl (.inr ((hvoid _ rfl).2 rfl))).1

end Tag

end JellyViews
