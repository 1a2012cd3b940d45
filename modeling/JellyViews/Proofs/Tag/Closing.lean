/-
**Elements and their own start tags.**

An element opens its start tag, runs its body and writes an end tag.  The end tag is checked against
the innermost open element, by name.  So the end tag belongs to the start tag of the element exactly
if the body leaves open what it found open; a body that leaves something else open is reported,
unless what is innermost then has the name of the element.  Trees of actions that write whole
elements only, and recover from no error, leave open what they find.

Main definitions:

* `Markup.Render.Closes` — steps that leave open what was open, if they succeed.

Main results:

* `Markup.on_element_of_error`, `Markup.on_element_of_ok` — an element after its body;
* `Markup.compositional_closes` — **elements close what they open, if their bodies do**;
* `Markup.element_closes` — **which start tag an element closes**, for every body;
* `Markup.element_closes_reopened` — a body that opens the element once more;
* `Tag.closes_runScript` — trees of actions without single tags and recoveries.
-/

import JellyViews.Proofs.Tag.CallStyles

set_option relaxedAutoImplicit false
set_option autoImplicit false

namespace JellyViews

namespace Markup

variable {name : String} {attrs : Attributes} {body : Option Block} {scope : Scope}
variable {c left : Context}

/-! ### An element after its body -/

/-- If the body fails, its error is passed on, and nothing is written after it. -/
theorem on_element_of_error {e : TagError}
    (h : (runBody scope body).on ((openTag name attrs).on c).2 = (.error e, left)) :
    (element name attrs body scope).on c = (.error e, left) := by
  rw [element, Render.on_bind_of_ok (on_openTag name attrs c)]
  exact Render.on_bind_of_error h _

/-- If it succeeds, the end tag is checked against what it leaves. -/
theorem on_element_of_ok
    (h : (runBody scope body).on ((openTag name attrs).on c).2 = (.ok (), left)) :
    (element name attrs body scope).on c = (closeTag name).on left := by
  rw [element, Render.on_bind_of_ok (on_openTag name attrs c)]
  exact Render.on_bind_of_ok h

/-! ### Steps that close what they open -/

/-- If the step succeeds, the elements that were open before it are open after it. -/
def Render.Closes (step : Render Unit) : Prop :=
  ∀ ⦃c c' : Context⦄, step.on c = (.ok (), c') → c'.openElements = c.openElements

theorem closes_modify {f : Context → Context} (h : ∀ c, (f c).openElements = c.openElements) :
    Render.Closes (modify f) := by
  intro c c' hstep
  obtain rfl : f c = c' := (Prod.mk.inj hstep).2
  exact h c

theorem closes_bind {step step' : Render Unit} (h : step.Closes) (h' : step'.Closes) :
    Render.Closes (step >>= fun _ => step') := by
  intro c c' hstep
  rw [Render.on_bind] at hstep
  rcases hc : step.on c with ⟨e | u, c₁⟩
  · simp [hc] at hstep
  · rw [hc] at hstep
    exact (h' hstep).trans (h hc)

/-- The end tag finds the start tag on top again. -/
theorem closes_around (name : String) (attrs : Attributes) {step : Render Unit}
    (h : step.Closes) :
    Render.Closes (do
      openTag name attrs
      step
      closeTag name) := by
  intro c c' hstep
  rw [Render.on_bind_of_ok (on_openTag name attrs c), Render.on_bind] at hstep
  rcases hc : step.on { c.push (.startTag name attrs) with
    openElements := name :: c.openElements } with ⟨e | u, c₁⟩
  · simp [hc] at hstep
  · rw [hc] at hstep
    obtain ⟨rest, hopen, rfl⟩ := on_closeTag_eq_ok_iff.1 hstep
    have htop : name :: rest = name :: c.openElements := hopen.symm.trans (h hc)
    exact (List.cons.inj htop).2

/-- **Elements close what they open, if their bodies do.** -/
theorem compositional_closes : Compositional Render.Closes where
  done c c' hstep := by
    obtain rfl : c = c' := (Prod.mk.inj hstep).2
    rfl
  fail e c c' hstep := by simp at hstep
  append text := closes_modify fun c => rfl
  voidTag name attrs := closes_modify fun c => rfl
  notes f := closes_modify fun c => rfl
  next := closes_bind
  around name attrs _ h := closes_around name attrs h

/-! ### Every body -/

/-- **Which start tag an element closes**, for every body.  The element fails with the error of its
body, or because the innermost element that the body leaves open has another name, and then nothing
is written after the body.  Otherwise it closes that innermost element.  So its success leaves the
elements open that were open before it, with one exception: the body has left other elements open
than it found, and the innermost of them has the name of the element. -/
theorem element_closes (name : String) (attrs : Attributes) (body : Option Block) (scope : Scope)
    (c : Context) :
    let ended := (element name attrs body scope).on c
    let found := ((openTag name attrs).on c).2
    let (result, left) := (runBody scope body).on found
    let top := left.openElements.head?
    (∀ e, ended.1 = .error e ↔
      result = .error e ∨ result = .ok () ∧ top ≠ some name ∧ e = .unbalancedClose top name) ∧
    (∀ e, ended.1 = .error e → ended.2 = left) ∧
    (ended.1 = .ok () → ended.2 =
      { left.push (.endTag name) with openElements := left.openElements.tail }) ∧
    (ended.1 = .ok () ∧ ended.2.openElements ≠ c.openElements ↔
      result = .ok () ∧ left.openElements ≠ found.openElements ∧ top = some name) := by
  intro ended found
  rcases hbody : (runBody scope body).on found with ⟨e | u, left⟩
  · have hended : ended = (.error e, left) := on_element_of_error hbody
    simp [hended]
  · by_cases htop : left.openElements.head? = some name
    · obtain ⟨rest, hopen⟩ := List.head?_eq_some_iff.1 htop
      have hended : ended = (.ok (), { left.push (.endTag name) with openElements := rest }) :=
        (on_element_of_ok hbody).trans (on_closeTag_of_open hopen)
      have hfound : found.openElements = name :: c.openElements := rfl
      simp [hended, hopen, hfound]
    · have hended : ended = (.error (.unbalancedClose left.openElements.head? name), left) :=
        (on_element_of_ok hbody).trans (on_closeTag_of_unbalanced htop)
      simp [hended, htop, eq_comm]

/-- A body that opens the element once more, and leaves it open: the end tag belongs to the inner
start tag, and the outer one is left open although the element succeeds. -/
theorem element_closes_reopened :
    let reopened := element "a" ∅ (some fun _ => openTag "a" ∅) .plain
    (reopened.on Context.empty).1 = .ok () ∧
    (reopened.on Context.empty).2.openElements ≠ Context.empty.openElements ∧
    (reopened.on Context.empty).2.text = "<a><a></a>" := by
  intro reopened
  obtain ⟨-, -, -, hexception⟩ :=
    element_closes "a" ∅ (some fun _ => openTag "a" ∅) .plain Context.empty
  obtain ⟨hok, hopen⟩ := hexception.2 ⟨rfl, by decide, rfl⟩
  exact ⟨hok, hopen, rfl⟩

end Markup

namespace Tag

open Markup

/-- **Trees of actions close what they open**, unless there are single tags in them or they recover
from errors. -/
theorem closes_runScript (r : Registry) (script : List Action)
    (h : ∀ a ∈ partsOfScript script, a.isAttempt = false ∧ a.isRaw = false) (scope : Scope) :
    (runScript r script scope).Closes :=
  runScript_of_compositional compositional_closes r script
    (fun a ha => Action.respects_of_not_isRaw Render.Closes (h a ha).1 (h a ha).2) scope

end Tag

end JellyViews
