/-
**The grammar of definitions.**

A definition becomes an operation if its name is an identifier, its element has a name that can
stand in a tag, and it says nothing that its kind has no use for.  A definition that names no
element gets one from its own name, which always works unless the name consists of underscores.
The name of a given element is held to less than it should be: an empty part between two others is
let through.

Main definitions:

* `Extension.Definition.Fitting` — definitions that say nothing that their kind has no use for.

Main results:

* `Extension.Definition.exists_accepted_iff` — what fits the kind becomes an operation;
* `Extension.operation_of_grammar` — **which definitions become operations**;
* `Extension.operation_of_grammar_gap` — a definition with a gap in the name of its element.
-/

import JellyViews.Proofs.Extension.Accepting
import JellyViews.Proofs.Naming.Grammar

set_option relaxedAutoImplicit false
set_option autoImplicit false

namespace JellyViews

namespace Extension

open Tag

namespace Definition

/-- The definition says nothing that its kind has no use for: a field requires no arguments and
does not show its value in its name, and no other tag shows a value. -/
inductive Fitting (d : Definition) : Prop
  | field (hkind : d.kind = .field) (hrequired : d.required = [])
      (hvalue : d.valueAttr ≠ some "name")
  | element (hkind : d.kind = .block ∨ d.kind = .void) (hvalue : d.valueAttr = none)

variable {d : Definition}

theorem shownIn_eq_nameArg_iff : d.shownIn = Field.nameArg ↔ d.valueAttr = some "name" := by
  unfold shownIn Field.nameArg
  cases d.valueAttr with
  | none => simp
  | some attr => simp

/-- What fits the kind becomes an operation, if the names are well-formed. -/
theorem exists_accepted_iff : (∃ op, d.Accepted op) ↔ d.Fitting := by
  constructor
  · rintro ⟨op, haccepted⟩
    cases haccepted with
    | field hkind hrequired hvalue =>
      exact .field hkind hrequired ((not_congr shownIn_eq_nameArg_iff).1 hvalue)
    | element hkind hvalue =>
      refine .element ?_ hvalue
      cases hd : d.kind with
      | field => exact absurd hd hkind
      | block => exact .inl rfl
      | void => exact .inr rfl
  · rintro (⟨hkind, hrequired, hvalue⟩ | ⟨hkind, hvalue⟩)
    · exact ⟨_, .field hkind hrequired ((not_congr shownIn_eq_nameArg_iff).2 hvalue)⟩
    · refine ⟨_, .element ?_ hvalue⟩
      rcases hkind with hkind | hkind <;> simp [hkind]

/-- The operation writes the element of its definition. -/
theorem elementName_of_operation {op : Operation} (h : d.operation = .ok op) :
    op.elementName = d.elementName := by
  obtain ⟨-, -, haccepted⟩ := operation_eq_ok_iff.1 h
  cases haccepted with
  | field _ _ _ => rfl
  | element _ _ => rfl

end Definition

/-- **Which definitions become operations**: those with an identifier as their name, with an element
whose name has only plain characters and no empty parts, and with nothing that their kind has no use
for; and, besides, those with an empty part between two others in the name of their element.  An
element that the definition does not name has no such gap, and is refused only if the name of the
definition consists of underscores.  The operation has the name, the element and the shape that the
definition says. -/
theorem operation_of_grammar (d : Definition) :
    ((∃ op, d.operation = .ok op) ↔
      Naming.Identifier d.name ∧
        (Naming.Spelled d.elementName ∨ Naming.Hollow d.elementName) ∧ d.Fitting) ∧
    (d.element = none → Naming.Identifier d.name →
      ¬ Naming.Hollow d.elementName ∧
        (Naming.Spelled d.elementName ↔ ∃ c ∈ d.name.toList, c ≠ '_')) ∧
    ∀ op, d.operation = .ok op →
      op.name = d.name ∧
        op.elementName = d.element.getD ("f" ++ ":" ++ Naming.camelCase d.name) ∧
        op.shape = d.kind.shape := by
  refine ⟨?_, fun hnone hname => ?_, fun op hop => ?_⟩
  · rw [← Definition.exists_accepted_iff, ← Naming.isIdentifier_iff, ← Naming.isElementName_iff,
      ← exists_and_left, ← exists_and_left]
    exact exists_congr fun op => Definition.operation_eq_ok_iff
  · have helement : d.elementName = Naming.elementName Naming.formNamespace d.name := by
      rw [Definition.elementName, hnone, Option.getD_none]
    rw [helement]
    exact ⟨hname.not_hollow_elementName, hname.spelled_elementName_iff⟩
  · obtain ⟨hname, hshape⟩ := Definition.of_operation hop
    exact ⟨hname, Definition.elementName_of_operation hop, hshape⟩

/-- A void tag with this name and this element, without arguments and defaults. -/
def voidNamed (name : String) (element : Option String) : Definition :=
  { name := name
    kind := .void
    valueAttr := none
    element := element
    required := []
    defaults := ∅ }

theorem fitting_voidNamed (name : String) (element : Option String) :
    (voidNamed name element).Fitting :=
  .element (.inr rfl) rfl

/-- The name of an element with two colons between its parts has a gap. -/
theorem hollow_gap : Naming.Hollow "a::b" where
  plain := by decide
  gap := ⟨['a'], [[]], ['b'], by decide, by decide, by decide, by decide⟩

/-- An identifier gives its element a name without its underscores, and underscores alone give
none; a given name is let through although it has a gap. -/
theorem operation_of_grammar_gap :
    (∃ op, (voidNamed "_help__area" none).operation = .ok op ∧ op.elementName = "f:helpArea") ∧
    (¬ ∃ op, (voidNamed "__" none).operation = .ok op) ∧
    ¬ Naming.Spelled "a::b" ∧
    ∃ op, (voidNamed "pair" (some "a::b")).operation = .ok op ∧ op.elementName = "a::b" := by
  have hhelp : Naming.Identifier "_help__area" := Naming.isIdentifier_iff.1 (by decide)
  have hblank : Naming.Identifier "__" := Naming.isIdentifier_iff.1 (by decide)
  have hpair : Naming.Identifier "pair" := Naming.isIdentifier_iff.1 (by decide)
  refine ⟨?_, ?_, hollow_gap.not_spelled, ?_⟩
  · obtain ⟨hiff, hderived, hop⟩ := operation_of_grammar (voidNamed "_help__area" none)
    have hspelled := (hderived rfl hhelp).2.2 ⟨'h', by decide, by decide⟩
    obtain ⟨op, hok⟩ := hiff.2 ⟨hhelp, .inl hspelled, fitting_voidNamed _ _⟩
    exact ⟨op, hok, (hop op hok).2.1.trans (by decide)⟩
  · obtain ⟨hiff, hderived, -⟩ := operation_of_grammar (voidNamed "__" none)
    obtain ⟨hfull, hspelled⟩ := hderived rfl hblank
    rintro ⟨op, hok⟩
    obtain ⟨-, helement, -⟩ := hiff.1 ⟨op, hok⟩
    obtain ⟨c, hc, hne⟩ := hspelled.1 (helement.resolve_right hfull)
    exact hne (by simpa [voidNamed] using hc)
  · obtain ⟨hiff, -, hop⟩ := operation_of_grammar (voidNamed "pair" (some "a::b"))
    obtain ⟨op, hok⟩ := hiff.2 ⟨hpair, .inr hollow_gap, fitting_voidNamed _ _⟩
    exact ⟨op, hok, (hop op hok).2.1⟩

end Extension

end JellyViews
