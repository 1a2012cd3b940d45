/-
**What operations settle.**

An operation settles what it writes before it writes anything.  The four kinds of operations look
at their arguments in different orders, but there is little that they can settle.  They refuse a
call because an argument is missing, or because there is a body that the element cannot hold;
otherwise they write one element, either without content or around the body.

Main definitions:

* `Tag.Operation.Settles` — the ways in which an operation settles a call.

Main results:

* `Tag.Operation.settles_form` — **there are no other ways**;
* `Tag.Operation.form_of_acceptsBody` — operations that take a body do not ask whether there is one.
-/

import JellyViews.Proofs.Outcome
import JellyViews.Tag.Operation

set_option relaxedAutoImplicit false
set_option autoImplicit false

namespace JellyViews

namespace Tag

variable {call : Call} {e : TagError}

/-! ### Missing arguments -/

theorem Call.require_eq_error {tag key : String} (h : call.require tag key = .error e) :
    e = .missingArgument tag key := by
  unfold require at h
  split at h
  · cases h
  · exact (Except.error.inj h).symm

theorem Loop.selectedOf_eq_error {explicit field : Option String}
    (h : selectedOf explicit field = .error e) : e = .missingArgument optionsName "field" := by
  unfold selectedOf at h
  split at h
  · cases h
  · cases h
  · exact (Except.error.inj h).symm

theorem Field.attributes_eq_error {f : Field} (h : f.attributes call = .error e) :
    e = .missingArgument f.name nameArg := by
  rcases bind_eq_error h with h | ⟨⟨field, rest⟩, -, h⟩
  · exact Call.require_eq_error h
  · cases h

/-- Parameters are refused for want of the argument of one of them. -/
theorem Element.takeParams_eq_error {tag : String} {ps : List Param} {attrs : Attributes}
    (h : takeParams tag ps call attrs = .error e) :
    ∃ p ∈ ps, e = .missingArgument tag p.arg := by
  induction ps generalizing call attrs with
  | nil => cases h
  | cons p ps ih =>
    unfold takeParams at h
    split at h
    · obtain ⟨q, hq, he⟩ := ih h
      exact ⟨q, List.mem_cons_of_mem p hq, he⟩
    · exact ⟨p, List.mem_cons_self, (Except.error.inj h).symm⟩
    · obtain ⟨q, hq, he⟩ := ih h
      exact ⟨q, List.mem_cons_of_mem p hq, he⟩
    · obtain ⟨q, hq, he⟩ := ih h
      exact ⟨q, List.mem_cons_of_mem p hq, he⟩

theorem Element.attributes_eq_error {el : Element} (h : el.attributes call = .error e) :
    ∃ arg, e = .missingArgument el.name arg := by
  rcases bind_eq_error h with h | ⟨⟨attrs, rest⟩, -, h⟩
  · obtain ⟨p, -, he⟩ := takeParams_eq_error h
    exact ⟨p.arg, he⟩
  · cases h

/-! ### Settling a call -/

namespace Operation

/-- What an operation makes of a call that comes with a body or without one. -/
inductive Settles (op : Operation) (hasBody : Bool) : Except TagError Form → Prop where
  | missing (arg : String) : Settles op hasBody (.error (.missingArgument op.name arg))
  | unexpected : op.acceptsBody = false → hasBody = true →
      Settles op hasBody (.error (.unexpectedBody op.name))
  | void (attrs : Attributes) : op.acceptsBody = false → hasBody = false →
      Settles op hasBody (.ok (.void op.elementName attrs))
  | around (attrs : Attributes) (scope : Markup.Scope) (option : Option Selection) :
      op.acceptsBody = true → Settles op hasBody (.ok (.around op.elementName attrs scope option))

theorem settles_field (f : Field) (call : Call) (hasBody : Bool) :
    (field f).Settles hasBody (f.form call hasBody) := by
  cases hasBody with
  | true => exact .unexpected rfl rfl
  | false =>
    cases hattrs : f.attributes call with
    | error e =>
      have hform : f.form call false = .error e := by
        simp [Field.form, hattrs, bind, Except.bind]
      rw [hform, Field.attributes_eq_error hattrs]
      exact .missing Field.nameArg
    | ok attrs =>
      have hform : f.form call false = .ok (.void f.element attrs) := by
        simp [Field.form, hattrs, bind, Except.bind, pure, Except.pure]
      rw [hform]
      exact .void attrs rfl rfl

theorem settles_element (el : Element) (call : Call) (hasBody : Bool) :
    (element el).Settles hasBody (el.form call hasBody) := by
  unfold Element.form
  cases hattrs : el.attributes call with
  | error e =>
    obtain ⟨arg, rfl⟩ := Element.attributes_eq_error hattrs
    exact .missing arg
  | ok attrs =>
    cases hshape : el.shape.acceptsBody with
    | true => exact .around attrs .plain none hshape
    | false =>
      cases hasBody with
      | true => exact .unexpected hshape rfl
      | false => exact .void attrs hshape rfl

theorem settles_overItems (call : Call) (hasBody : Bool) :
    forEach.Settles hasBody (Loop.overItems call) := by
  cases hform : Loop.overItems call with
  | error e =>
    rcases bind_eq_error hform with h | ⟨⟨items, rest⟩, -, h⟩
    · obtain rfl := Call.require_eq_error h
      exact .missing "items"
    · cases h
  | ok form =>
    obtain ⟨⟨items, rest⟩, -, h⟩ := bind_eq_ok hform
    obtain rfl := Except.ok.inj h
    exact .around _ _ _ rfl

theorem settles_overOptions (call : Call) (hasBody : Bool) :
    optionsFor.Settles hasBody (Loop.overOptions call) := by
  cases hform : Loop.overOptions call with
  | error e =>
    rcases bind_eq_error hform with h | ⟨⟨items, rest⟩, -, h⟩
    · obtain rfl := Call.require_eq_error h
      exact .missing "items"
    · rcases bind_eq_error h with h | ⟨selected, -, h⟩
      · obtain rfl := Loop.selectedOf_eq_error h
        exact .missing "field"
      · cases h
  | ok form =>
    obtain ⟨⟨items, rest⟩, -, h⟩ := bind_eq_ok hform
    obtain ⟨selected, -, h⟩ := bind_eq_ok h
    obtain rfl := Except.ok.inj h
    exact .around _ _ _ rfl

/-- **There are no other ways to settle a call.** -/
theorem settles_form (op : Operation) (call : Call) (hasBody : Bool) :
    op.Settles hasBody (op.form call hasBody) := by
  cases op with
  | field f => exact settles_field f call hasBody
  | element el => exact settles_element el call hasBody
  | forEach => exact settles_overItems call hasBody
  | optionsFor => exact settles_overOptions call hasBody

/-- Operations that take a body do not ask whether there is one. -/
theorem form_of_acceptsBody {op : Operation} (h : op.acceptsBody = true) (call : Call)
    (hasBody hasBody' : Bool) : op.form call hasBody = op.form call hasBody' := by
  cases op with
  | field f => cases h
  | element el =>
    have hshape : el.shape.acceptsBody = true := h
    simp only [form, Element.form, hshape, if_true]
  | forEach => rfl
  | optionsFor => rfl

end Operation

end Tag

end JellyViews
