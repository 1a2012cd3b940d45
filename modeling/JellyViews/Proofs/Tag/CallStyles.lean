/-
**The two styles of calls.**

A call can be written into a context, or turned into a text of its own.  Bodies are trees of
actions, in which calls of both styles are nested, and none of which recovers from an error.  Then a
call that has a text writes this text into every context; and if its body has no single start or end
tags, the call fails in all contexts alike.

Main definitions:

* `Tag.Action.parts`, `Tag.partsOfBody` — all actions of a tree;
* `Tag.Action.isAttempt`, `Tag.Action.isRaw` — actions that recover from errors, and single tags;
* `Tag.Action.Respects` — single tags that have a property of steps, and recoveries that keep it.

Main results:

* `Tag.emit_of_compositional` — **what elements keep holds of calls whose bodies have it**;
* `Tag.run_of_compositional` — and of all trees of actions;
* `Tag.call_styles_agree` — **both styles agree**;
* `Tag.call_styles_agree_section` — calls inside of an open element.
-/

import JellyViews.Proofs.Markup.Steps
import JellyViews.Tag.Script

set_option relaxedAutoImplicit false
set_option autoImplicit false

namespace JellyViews

namespace Tag

open Markup

/-! ### Calls -/

section

variable {P : Render Unit → Prop} (hP : Compositional P)

include hP

theorem runBody_of_compositional {body : Option Block} (hbody : ∀ b ∈ body, ∀ scope, P (b scope))
    (scope : Scope) : P (runBody scope body) := by
  cases body with
  | none => exact hP.done
  | some b => exact hbody b rfl scope

theorem content_of_compositional (option : Option Selection) {body : Option Block}
    (hbody : ∀ b ∈ body, ∀ scope, P (b scope)) (scope : Scope) : P (content option body scope) := by
  have hrun := runBody_of_compositional hP hbody scope
  cases option with
  | none => exact hP.next hP.done hrun
  | some s => exact hP.next (hP.around optionElement _ (hP.append s.label)) hrun

theorem write_of_compositional (form : Form) {body : Option Block}
    (hbody : ∀ b ∈ body, ∀ scope, P (b scope)) : P (form.write body) := by
  cases form with
  | void name attrs => exact hP.voidTag name attrs
  | around name attrs scope option =>
    exact hP.around name attrs (content_of_compositional hP option hbody scope)

/-- **What elements keep holds of calls whose bodies have it.** -/
theorem emit_of_compositional (r : Registry) (name : String) (call : Call) {body : Option Block}
    (hbody : ∀ b ∈ body, ∀ scope, P (b scope)) : P (r.emit name call body) := by
  unfold Registry.emit
  cases r.get name with
  | error e => exact hP.fail e
  | ok op =>
    dsimp only [Operation.emit]
    cases op.form call body.isSome with
    | error e => exact hP.fail e
    | ok form => exact write_of_compositional hP form hbody

/-- The text of a call is the same wherever it is written. -/
theorem writeExpressed_of_compositional (x : Except TagError String × Array Note) :
    P (writeExpressed x) := by
  obtain ⟨result, notes⟩ := x
  refine hP.next (hP.notes fun c => c.notes ++ notes) ?_
  cases result with
  | ok text => exact hP.append text
  | error e => exact hP.fail e

theorem times_of_compositional {step : Render Unit} (hstep : P step) (n : Nat) :
    P (times n step) := by
  induction n with
  | zero => exact hP.done
  | succ n ih => exact hP.next hstep ih

end

/-! ### Trees of actions -/

mutual

/-- An action, and all actions in the scripts that it holds. -/
def Action.parts : Action → List Action
  | .append text => [.append text]
  | .appendVar => [.appendVar]
  | .trace => [.trace]
  | .openTag name attrs => [.openTag name attrs]
  | .closeTag name => [.closeTag name]
  | .voidTag name attrs => [.voidTag name attrs]
  | .element name attrs body var => .element name attrs body var :: partsOfBody body
  | .emit name call body => .emit name call body :: partsOfBody body
  | .express name call body => .express name call body :: partsOfBody body
  | .repeated body n => .repeated body n :: partsOfBody body
  | .attempt script => .attempt script :: partsOfScript script

/-- The actions of a script, and all actions in the scripts that they hold. -/
def partsOfScript : List Action → List Action
  | [] => []
  | a :: as => a.parts ++ partsOfScript as

/-- All actions of a script that may be absent. -/
def partsOfBody : Option (List Action) → List Action
  | none => []
  | some script => partsOfScript script

end

namespace Action

/-- Whether the action recovers from an error. -/
def isAttempt : Action → Bool
  | attempt _ => true
  | _ => false

/-- Whether the action is a single start tag or end tag. -/
def isRaw : Action → Bool
  | openTag _ _ => true
  | closeTag _ => true
  | _ => false

/-- Whether the action has the property if it is a single tag, and keeps it if it recovers from
errors. -/
def Respects (P : Render Unit → Prop) : Action → Prop
  | openTag name attrs => P (Markup.openTag name attrs)
  | closeTag name => P (Markup.closeTag name)
  | attempt _ => ∀ step, P step → P (recovered step)
  | _ => True

/-- Start tags and end tags lift. -/
theorem respects_lifts {a : Action} (h : a.isAttempt = false) : a.Respects Render.Lifts := by
  cases a with
  | openTag name attrs => exact Render.lifts_openTag name attrs
  | closeTag name => exact Render.lifts_closeTag name
  | attempt script => simp [isAttempt] at h
  | _ => trivial

theorem respects_of_not_isRaw (P : Render Unit → Prop) {a : Action} (h : a.isAttempt = false)
    (hraw : a.isRaw = false) : a.Respects P := by
  cases a with
  | openTag name attrs => simp [isRaw] at hraw
  | closeTag name => simp [isRaw] at hraw
  | attempt script => simp [isAttempt] at h
  | _ => trivial

end Action

section

variable {P : Render Unit → Prop}

mutual

/-- **What elements keep holds of all trees of actions**, if it holds of the single tags in it and
is kept where the tree recovers from errors. -/
theorem run_of_compositional (hP : Compositional P) (r : Registry) :
    ∀ (a : Action), (∀ b ∈ a.parts, b.Respects P) → ∀ scope, P (a.run r scope)
  | .append text, _, _ => hP.append text
  | .appendVar, _, scope => hP.append (scope.var.getD "(none)")
  | .trace, _, scope => hP.notes fun c => c.notes.push (.scope scope.var c.depth)
  | .openTag name attrs, h, _ => h (.openTag name attrs) (by simp [Action.parts])
  | .closeTag name, h, _ => h (.closeTag name) (by simp [Action.parts])
  | .voidTag name attrs, _, _ => hP.voidTag name attrs
  | .element name attrs body var, h, _ => by
    have hbody := blockOf_of_compositional hP r body fun b hb => h b (by simp [Action.parts, hb])
    exact hP.around name attrs (runBody_of_compositional hP hbody ⟨var⟩)
  | .emit name call body, h, _ => by
    have hbody := blockOf_of_compositional hP r body fun b hb => h b (by simp [Action.parts, hb])
    exact emit_of_compositional hP r name call hbody
  | .express name call body, _, _ => writeExpressed_of_compositional hP _
  | .repeated body n, h, scope => by
    have hbody := blockOf_of_compositional hP r body fun b hb => h b (by simp [Action.parts, hb])
    exact times_of_compositional hP (runBody_of_compositional hP hbody scope) n
  | .attempt script, h, scope => by
    have hscript := runScript_of_compositional hP r script
      (fun b hb => h b (by simp [Action.parts, hb])) scope
    exact h (.attempt script) (by simp [Action.parts]) _ hscript

theorem runScript_of_compositional (hP : Compositional P) (r : Registry) :
    ∀ (script : List Action), (∀ b ∈ partsOfScript script, b.Respects P) →
      ∀ scope, P (runScript r script scope)
  | [], _, _ => hP.done
  | a :: as, h, scope => by
    have ha := run_of_compositional hP r a (fun b hb => h b (by simp [partsOfScript, hb])) scope
    have has := runScript_of_compositional hP r as
      (fun b hb => h b (by simp [partsOfScript, hb])) scope
    exact hP.next ha has

theorem blockOf_of_compositional (hP : Compositional P) (r : Registry) :
    ∀ (body : Option (List Action)), (∀ b ∈ partsOfBody body, b.Respects P) →
      ∀ b ∈ blockOf r body, ∀ scope, P (b scope)
  | none, _, b, hb, _ => by simp [blockOf] at hb
  | some script, h, b, hb, scope => by
    obtain rfl : runScript r script = b := by simpa [blockOf] using hb
    exact runScript_of_compositional hP r script h scope

end

end

/-! ### Both styles -/

theorem over_empty (c : Context) : Context.Over c.text c.openElements Context.empty c :=
  ⟨by simp, by simp⟩

theorem finish_eq_ok {c : Context} {t : String} (h : c.finish = .ok t) :
    c.openElements = [] ∧ c.text = t := by
  unfold Context.finish at h
  split at h
  · rename_i hopen
    exact ⟨hopen, by simpa using h⟩
  · simp at h

/-- A call that has a text was written into an empty context, and no element was left open. -/
theorem emit_of_renderExpr {r : Registry} {name : String} {call : Call} {body : Option Block}
    {t : String} (h : r.renderExpr name call body = .ok t) :
    ∃ c', (r.emit name call body).on Context.empty = (.ok (), c') ∧ c'.openElements = [] ∧
      c'.text = t := by
  unfold Registry.renderExpr Registry.express at h
  split at h
  · rename_i u c' hemit
    exact ⟨c', hemit, finish_eq_ok h⟩
  · simp at h

/-- A steady call fails everywhere as it fails in expressions. -/
theorem emit_error_iff_of_steady {r : Registry} {name : String} {call : Call}
    {body : Option Block} (h : (r.emit name call body).Steady) (c : Context) (e : TagError) :
    ((r.emit name call body).on c).1 = .error e ↔ r.renderExpr name call body = .error e := by
  obtain ⟨result, hresult⟩ := h
  rw [(hresult c).1]
  obtain ⟨hempty, hopen⟩ := hresult Context.empty
  unfold Registry.renderExpr Registry.express
  rcases hemit : (r.emit name call body).on Context.empty with ⟨e' | u, c'⟩
  · simp [← hempty, hemit]
  · rw [hemit] at hempty hopen
    subst hempty
    -- a success leaves no element open, so that it has a text
    have hclosed : c'.openElements = [] := hopen rfl
    simp [Context.finish, hclosed]

/-- **Both styles agree**, for bodies that recover from no error.  A call that has a text writes
this text in every context, and leaves the same elements open; and if its body has no single start
or end tags, it fails in every context as it fails in expressions. -/
theorem call_styles_agree (r : Registry) (name : String) (call : Call)
    (body : Option (List Action)) (hpass : ∀ a ∈ partsOfBody body, a.isAttempt = false) :
    (∀ t, r.renderExpr name call (blockOf r body) = .ok t →
      ∀ c : Context, ∃ c', (r.emit name call (blockOf r body)).on c = (.ok (), c') ∧
        c'.text = c.text ++ t ∧ c'.openElements = c.openElements) ∧
    ((∀ a ∈ partsOfBody body, a.isRaw = false) → ∀ (c : Context) (e : TagError),
      ((r.emit name call (blockOf r body)).on c).1 = .error e ↔
        r.renderExpr name call (blockOf r body) = .error e) := by
  constructor
  · intro t ht c
    have hlifts : (r.emit name call (blockOf r body)).Lifts :=
      emit_of_compositional compositional_lifts r name call
        (blockOf_of_compositional compositional_lifts r body fun a ha =>
          Action.respects_lifts (hpass a ha))
    obtain ⟨c₀, hemit, hopen, rfl⟩ := emit_of_renderExpr ht
    obtain ⟨c', hc', hover⟩ := hlifts (over_empty c) hemit
    refine ⟨c', hc', hover.text, ?_⟩
    rw [hover.openElements, hopen, List.nil_append]
  · intro hraw c e
    have hsteady : (r.emit name call (blockOf r body)).Steady :=
      emit_of_compositional compositional_steady r name call
        (blockOf_of_compositional compositional_steady r body fun a ha =>
          Action.respects_of_not_isRaw Render.Steady (hpass a ha) (hraw a ha))
    exact emit_error_iff_of_steady hsteady c e

/-- A body that opens an element, writes its variable twice and a call once, and closes the
element. -/
def wrappedBody : Option (List Action) :=
  some [.openTag "b" ∅, .repeated (some [.appendVar]) 2, .express "advanced" ∅ none,
    .closeTag "b"]

/-- A body with an element around a call of an operation that is not there. -/
def failingBody : Option (List Action) :=
  some [.element "b" ∅ (some [.emit "unknown" ∅ none]) none]

/-- A context in which an element is open. -/
def started : Context := { Context.empty.push (.startTag "a" ∅) with openElements := ["a"] }

/-- A section around each of the two bodies, inside of an open element. -/
theorem call_styles_agree_section :
    (∃ c', (Registry.standard.emit "section" ∅ (blockOf Registry.standard wrappedBody)).on started =
        (.ok (), c') ∧
      c'.text = started.text ++
        "<f:section><b>(none)(none)<f:advanced></f:advanced></b></f:section>" ∧
      c'.openElements = ["a"]) ∧
    ((Registry.standard.emit "section" ∅ (blockOf Registry.standard failingBody)).on started).1 =
      .error (.unknownTag "unknown") :=
  ⟨(call_styles_agree Registry.standard "section" ∅ wrappedBody (by decide)).1 _ rfl started,
    ((call_styles_agree Registry.standard "section" ∅ failingBody (by decide)).2 (by decide) started
      (.unknownTag "unknown")).2 rfl⟩

end Tag

end JellyViews
