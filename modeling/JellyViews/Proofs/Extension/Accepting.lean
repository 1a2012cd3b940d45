/-
**Definitions that become operations.**

A definition becomes an operation if its name and its element are well-formed and it says nothing
that its kind has no use for.  What the operation is can then be read off the definition: a field
becomes a form input, and a block or a void tag becomes an element whose parameters are what the
definition requires.

Main definitions:

* `Extension.Definition.Accepted` — a definition and the operation that it becomes.

Main results:

* `Extension.Definition.operation_eq_ok_iff` — **which definitions become operations**, and which
  operations they become;
* `Extension.Definition.of_operation` — the operation has the name and the shape of its definition.
-/

import JellyViews.Extension.Definition

set_option relaxedAutoImplicit false
set_option autoImplicit false

namespace JellyViews

namespace Extension

open Tag

namespace Definition

variable {d : Definition} {op : Operation}

/-- The definition becomes this operation. -/
inductive Accepted (d : Definition) : Operation → Prop
  | field (hkind : d.kind = .field) (hrequired : d.required = [])
      (hvalue : d.shownIn ≠ Field.nameArg) :
    Accepted d (.field ⟨d.name, d.elementName, d.shownIn, d.attributes⟩)
  | element (hkind : d.kind ≠ .field) (hvalue : d.valueAttr = none) :
    Accepted d (.element
      ⟨d.name, d.elementName, d.kind.shape, d.required.map Param.required, d.attributes⟩)

theorem fieldOperation_eq_ok_iff (hkind : d.kind = .field) :
    d.fieldOperation = .ok op ↔ d.Accepted op := by
  unfold fieldOperation
  constructor
  · intro h
    split at h
    · cases h
    · rename_i hrequired
      split at h
      · cases h
      · rename_i hvalue
        obtain rfl := Except.ok.inj h
        exact .field hkind (Decidable.not_not.1 hrequired) hvalue
  · intro h
    cases h with
    | field _ hrequired hvalue => rw [if_neg (not_not_intro hrequired), if_neg hvalue]
    | element hne _ => exact absurd hkind hne

theorem elementOperation_eq_ok_iff (hkind : d.kind ≠ .field) :
    d.elementOperation = .ok op ↔ d.Accepted op := by
  unfold elementOperation
  constructor
  · intro h
    split at h
    · cases h
    · rename_i hvalue
      obtain rfl := Except.ok.inj h
      exact .element hkind (Option.not_isSome_iff_eq_none.1 hvalue)
  · intro h
    cases h with
    | field heq _ _ => exact absurd heq hkind
    | element _ hvalue => rw [if_neg (by simp [hvalue])]

/-- **Which definitions become operations**, and which operations they become. -/
theorem operation_eq_ok_iff :
    d.operation = .ok op ↔
      Naming.isIdentifier d.name = true ∧ Naming.isElementName d.elementName = true ∧
        d.Accepted op := by
  unfold operation
  by_cases hname : Naming.isIdentifier d.name = true
  · by_cases helement : Naming.isElementName d.elementName = true
    · rw [if_neg (not_not_intro hname), if_neg (not_not_intro helement), and_iff_right hname,
        and_iff_right helement]
      cases hkind : d.kind with
      | field => exact fieldOperation_eq_ok_iff hkind
      | block => exact elementOperation_eq_ok_iff (by simp [hkind])
      | void => exact elementOperation_eq_ok_iff (by simp [hkind])
    · rw [if_neg (not_not_intro hname), if_pos helement]
      simp [helement]
  · rw [if_pos hname]
    simp [hname]

/-- The operation of a definition has the name and the shape that the definition says. -/
theorem of_operation (h : d.operation = .ok op) : op.name = d.name ∧ op.shape = d.kind.shape := by
  obtain ⟨-, -, haccepted⟩ := operation_eq_ok_iff.1 h
  cases haccepted with
  | field hkind _ _ => exact ⟨rfl, by rw [hkind]; rfl⟩
  | element _ _ => exact ⟨rfl, rfl⟩

end Definition

end Extension

end JellyViews
