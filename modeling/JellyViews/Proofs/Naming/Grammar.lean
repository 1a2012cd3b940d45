/-
**The grammar of names.**

Operations are named by identifiers.  The name of an element is a row of parts with colons between
them; none of its characters may end a name in a tag.  No part should be empty, but only the two
ends of the name are looked at: a part between two others may be empty nevertheless.

Main definitions:

* `Naming.Identifier` — the identifiers;
* `Naming.parts` — the parts of the name of an element;
* `Naming.Plain`, `Naming.Spelled` — names of elements by their characters and their parts;
* `Naming.Hollow` — names with an empty part between two others.

Main results:

* `Naming.isIdentifier_iff` — **which names are identifiers**;
* `Naming.isElementName_iff` — **which names may name an element**;
* `Naming.spelled_elementName_iff` — an identifier gives an element its name if it does not consist
  of underscores alone.
-/

import JellyViews.Proofs.Naming.CamelCase

set_option relaxedAutoImplicit false
set_option autoImplicit false

namespace JellyViews

namespace Naming

variable {name : String}

/-! ### Identifiers -/

/-- A name is an identifier if it is a row of letters, digits and underscores, not empty, and does
not start with a digit. -/
structure Identifier (name : String) : Prop where
  ne_empty : name ≠ ""
  chars : ∀ c ∈ name.toList, c.isAlpha ∨ c.isDigit ∨ c = '_'
  first : ∀ c ∈ name.toList.head?, ¬ c.isDigit

theorem isIdentifierChar_iff {c : Char} :
    isIdentifierChar c = true ↔ c.isAlpha ∨ c.isDigit ∨ c = '_' := by
  simp [isIdentifierChar, Char.isAlphanum, or_assoc]

theorem lt_of_isIdentifierChar {c : Char} (h : isIdentifierChar c = true) : c.toNat < 128 := by
  -- letters end at z or Z, digits at 9
  have hle : c.toNat ≤ 'z'.toNat ∨ c.toNat ≤ 'Z'.toNat ∨ c.toNat ≤ '9'.toNat ∨ c = '_' := by
    rcases isIdentifierChar_iff.1 h with halpha | hdigit | hunderscore
    · rcases Bool.or_eq_true_iff.1 halpha with hupper | hlower
      · exact .inr (.inl (of_decide_eq_true hupper).2)
      · exact .inl (of_decide_eq_true (Bool.and_eq_true_iff.1 hlower).2)
    · exact .inr (.inr (.inl (Char.isDigit_iff_toNat.1 hdigit).2))
    · exact .inr (.inr (.inr hunderscore))
  rcases hle with hle | hle | hle | rfl
  · exact Nat.lt_of_le_of_lt hle (by decide)
  · exact Nat.lt_of_le_of_lt hle (by decide)
  · exact Nat.lt_of_le_of_lt hle (by decide)
  · decide

theorem isIdentifierStart_iff {c : Char} :
    isIdentifierStart c = true ↔ isIdentifierChar c = true ∧ ¬ c.isDigit := by
  constructor
  · intro h
    have hchar : isIdentifierChar c = true := by
      rw [isIdentifierChar, Char.isAlphanum]
      rw [isIdentifierStart, Bool.or_eq_true] at h
      rcases h with h | h <;> simp [h]
    exact ⟨hchar, Text.of_ascii (p := fun c => isIdentifierStart c = true → ¬ c.isDigit)
      (by decide) (lt_of_isIdentifierChar hchar) h⟩
  · rintro ⟨hchar, hdigit⟩
    simpa [isIdentifierChar, isIdentifierStart, Char.isAlphanum, hdigit] using hchar

/-- **Which names are identifiers.** -/
theorem isIdentifier_iff : isIdentifier name = true ↔ Identifier name := by
  have hne : name ≠ "" ↔ name.toList ≠ [] := not_congr String.toList_eq_nil_iff.symm
  unfold isIdentifier
  cases hname : name.toList with
  | nil =>
    refine ⟨fun h => absurd h Bool.false_ne_true, fun h => absurd hname ?_⟩
    exact hne.1 h.ne_empty
  | cons c cs =>
    rw [Bool.and_eq_true, isIdentifierStart_iff, List.all_eq_true]
    constructor
    · rintro ⟨⟨hchar, hdigit⟩, hchars⟩
      refine ⟨hne.2 (by simp [hname]), ?_, ?_⟩
      · rw [hname, List.forall_mem_cons]
        exact ⟨isIdentifierChar_iff.1 hchar, fun d hd => isIdentifierChar_iff.1 (hchars d hd)⟩
      · simpa [hname] using hdigit
    · rintro ⟨-, hchars, hfirst⟩
      rw [hname, List.forall_mem_cons] at hchars
      exact ⟨⟨isIdentifierChar_iff.2 hchars.1, hfirst c (by simp [hname])⟩,
        fun d hd => isIdentifierChar_iff.2 (hchars.2 d hd)⟩

/-! ### The ends of a row of parts -/

variable (a : Char) (cs : List Char)

theorem head?_splitOn_eq_nil_iff :
    (cs.splitOn a).head? = some [] ↔ cs = [] ∨ cs.head? = some a := by
  cases cs with
  | nil => simp
  | cons c cs =>
    rw [List.splitOn_cons_eq_if_modifyHead]
    by_cases hc : c = a
    · simp [hc]
    · obtain ⟨w, ws, hsplit⟩ := List.exists_cons_of_ne_nil (List.splitOn_ne_nil a cs)
      simp [hc, hsplit]

theorem getLast?_splitOn_eq_nil_iff :
    (cs.splitOn a).getLast? = some [] ↔ cs = [] ∨ cs.getLast? = some a := by
  by_cases ha : a ∈ cs
  · -- the last part is what stands behind the last separator
    obtain ⟨back, front, hreverse, hback⟩ := List.eq_append_cons_of_mem (List.mem_reverse.2 ha)
    have hcs : cs = front.reverse ++ a :: back.reverse := by
      rw [← List.reverse_reverse cs, hreverse, List.reverse_append, List.reverse_cons,
        List.append_assoc, List.singleton_append]
    have hlast : back.reverse.splitOn a = [back.reverse] :=
      List.splitOn_eq_singleton (by rwa [List.mem_reverse])
    rw [hcs, List.splitOn_append_cons_self, hlast, List.getLast?_concat]
    cases back with
    | nil => simp
    | cons b back =>
      have hb : b ≠ a := fun heq => hback (heq ▸ List.mem_cons_self)
      rw [List.reverse_cons, ← List.cons_append, ← List.append_assoc, List.getLast?_concat]
      simp [hb]
  · rw [List.splitOn_eq_singleton ha, List.getLast?_singleton, Option.some_inj]
    exact ⟨.inl, fun h => h.resolve_right fun hlast => ha (List.mem_of_getLast? hlast)⟩

/-- If neither end of a row is empty, then nothing in it is, or something between the ends. -/
theorem ends_filled_iff {ps : List (List Char)} (h : ps ≠ []) :
    ps.head? ≠ some [] ∧ ps.getLast? ≠ some [] ↔
      [] ∉ ps ∨ ∃ first inner last, ps = first :: (inner ++ [last]) ∧
        first ≠ [] ∧ [] ∈ inner ∧ last ≠ [] := by
  constructor
  · rintro ⟨hhead, hlast⟩
    by_cases hmem : [] ∈ ps
    · obtain ⟨first, rest, rfl⟩ := List.exists_cons_of_ne_nil h
      have hfirst : first ≠ [] := fun heq => hhead (heq ▸ rfl)
      have hrest : [] ∈ rest := (List.mem_cons.1 hmem).resolve_left (Ne.symm hfirst)
      rcases List.eq_nil_or_concat rest with rfl | ⟨inner, last, rfl⟩
      · cases hrest
      · rw [List.concat_eq_append, ← List.cons_append, List.getLast?_concat] at hlast
        have hlast : last ≠ [] := fun heq => hlast (heq ▸ rfl)
        rw [List.concat_eq_append, List.mem_append, List.mem_singleton] at hrest
        refine .inr ⟨first, inner, last, by rw [List.concat_eq_append], hfirst, ?_, hlast⟩
        exact hrest.resolve_right (Ne.symm hlast)
    · exact .inl hmem
  · rintro (hnot | ⟨first, inner, last, rfl, hfirst, -, hlast⟩)
    · exact ⟨fun heq => hnot (List.mem_of_head? heq), fun heq => hnot (List.mem_of_getLast? heq)⟩
    · rw [← List.cons_append, List.getLast?_concat]
      exact ⟨fun heq => hfirst (Option.some.inj heq), fun heq => hlast (Option.some.inj heq)⟩

/-! ### Names of elements -/

/-- The parts of the name of an element: what stands between its colons. -/
def parts (name : String) : List (List Char) := name.toList.splitOn ':'

theorem parts_ne_nil (name : String) : parts name ≠ [] := List.splitOn_ne_nil ':' name.toList

/-- No character ends the name in a tag: there is no white space and no character of markup. -/
def Plain (name : String) : Prop :=
  ∀ c ∈ name.toList, Text.isBlank c = false ∧ c ∉ ['<', '>', '/', '"', '\'', '=']

/-- The name of an element as it should be: no part is empty. -/
structure Spelled (name : String) : Prop where
  plain : Plain name
  filled : [] ∉ parts name

/-- A name with an empty part between two others, as where two colons follow each other. -/
structure Hollow (name : String) : Prop where
  plain : Plain name
  gap : ∃ first inner last, parts name = first :: (inner ++ [last]) ∧
    first ≠ [] ∧ [] ∈ inner ∧ last ≠ []

theorem breaksElementName_eq_false_iff {c : Char} :
    breaksElementName c = false ↔
      Text.isBlank c = false ∧ c ∉ ['<', '>', '/', '"', '\'', '='] := by
  simp [breaksElementName, and_assoc]

theorem plain_iff : Plain name ↔ name.toList.any breaksElementName = false := by
  rw [List.any_eq_false]
  refine forall₂_congr fun c _ => ?_
  rw [Bool.not_eq_true, breaksElementName_eq_false_iff]

instance (name : String) : Decidable (Plain name) := decidable_of_iff' _ plain_iff

theorem isElementName_iff_ends :
    isElementName name = true ↔
      Plain name ∧ (parts name).head? ≠ some [] ∧ (parts name).getLast? ≠ some [] := by
  rw [plain_iff, parts, Ne, Ne, head?_splitOn_eq_nil_iff, getLast?_splitOn_eq_nil_iff]
  unfold isElementName
  cases hname : name.toList with
  | nil => simp
  | cons c cs => simp [and_comm]

/-- **Which names may name an element**: those as they should be, but also those with an empty part
between two others. -/
theorem isElementName_iff : isElementName name = true ↔ Spelled name ∨ Hollow name := by
  rw [isElementName_iff_ends, ends_filled_iff (parts_ne_nil name), and_or_left]
  constructor
  · rintro (⟨hplain, hfilled⟩ | ⟨hplain, hgap⟩)
    · exact .inl ⟨hplain, hfilled⟩
    · exact .inr ⟨hplain, hgap⟩
  · rintro (h | h)
    · exact .inl ⟨h.plain, h.filled⟩
    · exact .inr ⟨h.plain, h.gap⟩

/-- A name with an empty part is not as it should be. -/
theorem Hollow.not_spelled (h : Hollow name) : ¬ Spelled name := by
  intro hspelled
  obtain ⟨first, inner, last, hparts, -, hinner, -⟩ := h.gap
  refine hspelled.filled ?_
  rw [hparts]
  exact List.mem_cons_of_mem _ (List.mem_append_left _ hinner)

/-! ### Derived names -/

/-- The characters of identifiers may occur in any part of the name of an element. -/
theorem of_isIdentifierChar {c : Char} (h : isIdentifierChar c = true) :
    breaksElementName c = false ∧ c ≠ ':' ∧ isIdentifierChar c.toUpper = true :=
  Text.of_ascii (p := fun c => isIdentifierChar c = true →
    breaksElementName c = false ∧ c ≠ ':' ∧ isIdentifierChar c.toUpper = true)
    (by decide +kernel) (lt_of_isIdentifierChar h) h

/-- The characters of an identifier in camel case are still those of identifiers. -/
theorem isIdentifierChar_camelChars {cs : List Char} (h : ∀ c ∈ cs, isIdentifierChar c = true)
    (started capital : Bool) :
    ∀ c ∈ camelChars started capital cs, isIdentifierChar c = true := by
  induction cs generalizing started capital with
  | nil => simp [camelChars]
  | cons c cs ih =>
    rw [List.forall_mem_cons] at h
    rw [camelChars]
    by_cases hc : c = '_'
    · rw [if_pos hc]
      exact ih h.2 _ _
    · rw [if_neg hc]
      split
      · rw [Text.upperCase_of_ascii (lt_of_isIdentifierChar h.1), List.singleton_append,
          List.forall_mem_cons]
        exact ⟨(of_isIdentifierChar h.1).2.2, ih h.2 _ _⟩
      · rw [List.forall_mem_cons]
        exact ⟨h.1, ih h.2 _ _⟩

theorem Identifier.isIdentifierChar_camelCase (h : Identifier name) :
    ∀ c ∈ (camelCase name).toList, isIdentifierChar c = true := by
  rw [camelCase, String.toList_ofList]
  exact isIdentifierChar_camelChars (fun c hc => isIdentifierChar_iff.2 (h.chars c hc)) _ _

theorem toList_elementName (name : String) :
    (elementName formNamespace name).toList = ['f'] ++ ':' :: (camelCase name).toList := by
  simp [elementName, formNamespace]

theorem Identifier.parts_elementName (h : Identifier name) :
    parts (elementName formNamespace name) = [['f'], (camelCase name).toList] := by
  have hcolon : ':' ∉ (camelCase name).toList := fun hmem =>
    (of_isIdentifierChar (h.isIdentifierChar_camelCase _ hmem)).2.1 rfl
  rw [parts, toList_elementName, List.splitOn_append_cons_self, List.splitOn_eq_singleton hcolon]
  rfl

theorem Identifier.plain_elementName (h : Identifier name) :
    Plain (elementName formNamespace name) := by
  rw [plain_iff, List.any_eq_false, toList_elementName, List.forall_mem_append]
  refine ⟨List.forall_mem_singleton.2 (by decide), ?_⟩
  refine List.forall_mem_cons.2 ⟨by decide, fun c hc => ?_⟩
  rw [(of_isIdentifierChar (h.isIdentifierChar_camelCase c hc)).1]
  exact Bool.false_ne_true

/-- The name that an identifier gives to its element is as it should be, unless nothing is left of
the identifier without its underscores. -/
theorem Identifier.spelled_elementName_iff (h : Identifier name) :
    Spelled (elementName formNamespace name) ↔ ∃ c ∈ name.toList, c ≠ '_' := by
  have hleft : [] ∉ parts (elementName formNamespace name) ↔ camelCase name ≠ "" := by
    rw [h.parts_elementName, Ne, ← String.toList_eq_nil_iff, eq_comm]
    simp
  have hsome : camelCase name ≠ "" ↔ ∃ c ∈ name.toList, c ≠ '_' := by
    rw [Ne, camelCase_eq_empty_iff]
    simp
  rw [← hsome, ← hleft]
  exact ⟨fun hspelled => hspelled.filled, fun hfilled => ⟨h.plain_elementName, hfilled⟩⟩

theorem Identifier.not_hollow_elementName (h : Identifier name) :
    ¬ Hollow (elementName formNamespace name) := by
  rintro ⟨-, first, inner, last, hparts, -, hinner, -⟩
  -- there are two parts, and none between them
  rw [h.parts_elementName] at hparts
  have hlength := congrArg List.length hparts
  cases inner with
  | nil => cases hinner
  | cons part inner => simp at hlength

end Naming

end JellyViews
