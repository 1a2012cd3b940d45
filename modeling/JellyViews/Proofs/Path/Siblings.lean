/-
**Siblings.**

A path that ends with a name stands in a directory, its parent.  Segments that name nothing may
follow the name, and they are lost when the name is replaced.  Another name in its place gives a
path in the same directory, which ends with this name.  But not every text without a slash is a
name: a dot in the place of the name leads to the directory itself, and two dots lead out of it.

Main definitions:

* `Path.EndsIn` — paths that end with a name, behind some segments.

Main results:

* `Path.fileName?_eq_some_iff` — the paths that have a file name;
* `Path.components_eq_parent` — **such a path is its name in its parent**;
* `Path.components_withFileName` — what another text in the place of the name leads to;
* `Path.isSibling_iff` — **only names give siblings**.
-/

import JellyViews.Proofs.Path.Segments

set_option relaxedAutoImplicit false
set_option autoImplicit false

namespace JellyViews

namespace Path

variable {p : Path} {A : List String} {n x : String}

/-! ### Paths that end with a name -/

/-- The path ends with the name, which stands behind these segments; segments that name nothing may
follow. -/
structure EndsIn (p : Path) (A : List String) (n : String) : Prop where
  isName : IsName n
  segments : ∃ idle, (∀ s ∈ idle, isIdle s = true) ∧ p.segments = A ++ n :: idle

/-- The last component behind the lead is that of a segment. -/
theorem exists_of_getLast?_bodyComponents {ss : List String} {c : Component}
    (h : (bodyComponents ss).getLast? = some c) :
    ∃ X s idle, ss = X ++ s :: idle ∧ isIdle s = false ∧ componentOf s = c ∧
      ∀ s ∈ idle, isIdle s = true := by
  obtain ⟨idle, hidle, hss⟩ := exists_trimIdleEnd_append ss
  have hbody : bodyComponents ss = bodyComponents (trimIdleEnd ss) :=
    (congrArg bodyComponents hss).trans (bodyComponents_append_idle hidle)
  rcases List.eq_nil_or_concat (trimIdleEnd ss) with hnil | ⟨X, s, htrim⟩
  · rw [hbody, hnil] at h
    cases h
  · have hs : isIdle s = false := notIdle_of_getLast?_trimIdleEnd (by rw [htrim]; simp)
    refine ⟨X, s, idle, ?_, hs, ?_, hidle⟩
    · rw [htrim] at hss
      simpa using hss
    · rw [hbody, htrim] at h
      simpa [bodyComponents, hs] using h

theorem exists_append_frontBody (ss : List String) : ∃ L, ss = L ++ frontBody ss := by
  unfold frontBody
  split
  · exact ⟨[""], rfl⟩
  · exact ⟨["."], rfl⟩
  · exact ⟨[], rfl⟩

theorem exists_endsIn (h : p.fileName? = some n) : ∃ A, p.EndsIn A n := by
  have htext : p.text ≠ "" := by
    intro hempty
    rw [show p = ⟨""⟩ from congrArg Path.mk hempty] at h
    cases h
  have hlast : p.components.getLast? = some (.name n) := by
    unfold fileName? at h
    split at h
    · rename_i s hs
      rw [hs, Option.some.inj h]
    · cases h
  rw [components_eq_front htext, frontComponents] at hlast
  have hbody : (bodyComponents (frontBody p.segments)).getLast? = some (.name n) := by
    rw [List.getLast?_append] at hlast
    cases hb : (bodyComponents (frontBody p.segments)).getLast? with
    | some c => simpa [hb] using hlast
    | none =>
      -- a lead is no name
      rw [hb] at hlast
      unfold Lead.components at hlast
      split at hlast <;> simp at hlast
  obtain ⟨X, s, idle, hX, hs, hcomp, hidle⟩ := exists_of_getLast?_bodyComponents hbody
  obtain ⟨L, hL⟩ := exists_append_frontBody p.segments
  have hseg : p.segments = (L ++ X) ++ s :: idle := by
    rw [List.append_assoc, ← hX]
    exact hL
  unfold componentOf at hcomp
  split at hcomp
  · cases hcomp
  · rename_i hup
    obtain rfl : s = n := Component.name.inj hcomp
    have hslash := slash_not_mem_of_mem_segments (p := p) (s := s) (by rw [hseg]; simp)
    exact ⟨L ++ X, ⟨hslash, hs, hup⟩, idle, hidle, hseg⟩

namespace EndsIn

theorem slash_not_mem (h : p.EndsIn A n) {s : String} (hs : s ∈ A) : '/' ∉ s.toList := by
  obtain ⟨idle, -, hseg⟩ := h.segments
  exact slash_not_mem_of_mem_segments (hseg ▸ List.mem_append_left _ hs)

theorem components (h : p.EndsIn A n) : p.components = frontComponents A ++ [.name n] := by
  obtain ⟨idle, hidle, hseg⟩ := h.segments
  have happend : frontBody A ++ n :: idle = (frontBody A ++ [n]) ++ idle := by simp
  simp only [Path.components, hseg, splitLead_append A h.isName.notIdle]
  rw [happend, bodyComponents_append_idle hidle, ← h.isName.componentOf_eq]
  simp [frontComponents, bodyComponents, h.isName.notIdle]

theorem fileName?_eq (h : p.EndsIn A n) : p.fileName? = some n := by
  rw [fileName?, h.components]
  simp

theorem parent_eq (h : p.EndsIn A n) :
    p.parent = ofLead (frontLead A) (trimIdleEnd (frontBody A)) := by
  obtain ⟨idle, hidle, hseg⟩ := h.segments
  have happend : frontBody A ++ n :: idle = (frontBody A ++ [n]) ++ idle := by simp
  simp only [parent, hseg, splitLead_append A h.isName.notIdle]
  rw [happend, trimIdleEnd_append_idle hidle, trimIdleEnd_concat h.isName.notIdle,
    List.dropLast_concat]

/-- The same path with nothing behind its name. -/
theorem exists_twin (h : p.EndsIn A n) :
    ∃ q : Path, q.segments = A ++ [n] ∧ q.parent = p.parent := by
  have hseg : (ofSegments (A ++ [n])).segments = A ++ [n] := by
    refine segmentsOf_intercalate (by simp) fun s hs => ?_
    rcases List.mem_append.1 hs with hs | hs
    · exact h.slash_not_mem hs
    · exact List.mem_singleton.1 hs ▸ h.isName.noSlash
  exact ⟨_, hseg, (parent_of_segments hseg h.isName.notIdle).trans h.parent_eq.symm⟩

/-- Another text in the place of the name. -/
theorem segments_withFileName (h : p.EndsIn A n) (hx : '/' ∉ x.toList) :
    (p.withFileName x).segments = trimmed A ++ [x] := by
  obtain ⟨q, hq, hparent⟩ := h.exists_twin
  rw [withFileName, ← hparent]
  exact Path.segments_withFileName hq h.isName.notIdle hx

end EndsIn

/-- The paths that have a file name. -/
theorem fileName?_eq_some_iff : p.fileName? = some n ↔ ∃ A, p.EndsIn A n :=
  ⟨exists_endsIn, fun ⟨_, h⟩ => h.fileName?_eq⟩

theorem isName_of_fileName? (h : p.fileName? = some n) : IsName n := by
  obtain ⟨A, hA⟩ := exists_endsIn h
  exact hA.isName

/-! ### The parent -/

/-- The parent has the components in front of the name. -/
theorem EndsIn.components_parent (h : p.EndsIn A n) : p.parent.components = frontComponents A := by
  rw [h.parent_eq]
  by_cases htop : trimmed A = [""]
  · cases A with
    | nil => simp [trimmed] at htop
    | cons a A =>
      obtain ⟨rfl, hA⟩ : a = "" ∧ trimIdleEnd A = [] := by simpa [trimmed] using htop
      rw [← frontComponents_trimmed, htop]
      change (ofLead .root (trimIdleEnd A)).components = _
      rw [hA]
      rfl
  · rw [ofLead_front A htop]
    cases A with
    | nil => rfl
    | cons a A =>
      have hseg : (ofSegments (trimmed (a :: A))).segments = trimmed (a :: A) :=
        segmentsOf_intercalate (by simp [trimmed]) fun s hs =>
          h.slash_not_mem (mem_of_mem_trimmed hs)
      have htext : (ofSegments (trimmed (a :: A))).text ≠ "" := by
        intro hempty
        refine htop (hseg.symm.trans ?_)
        rw [Path.segments, hempty]
        rfl
      rw [components_eq_front htext, hseg, frontComponents_trimmed]

/-- **A path with a file name is this name in its parent.** -/
theorem components_eq_parent (h : p.fileName? = some n) :
    p.components = p.parent.components ++ [.name n] := by
  obtain ⟨A, hA⟩ := exists_endsIn h
  rw [hA.components, hA.components_parent]

/-! ### Another text in the place of the name -/

theorem frontLead_trimmed (A : List String) : frontLead (trimmed A) = frontLead A := by
  cases A with
  | nil => rfl
  | cons a A =>
    unfold frontLead
    split <;> simp_all [trimmed]

theorem trimIdleEnd_trimIdleEnd (ss : List String) :
    trimIdleEnd (trimIdleEnd ss) = trimIdleEnd ss := by
  obtain ⟨idle, hidle, hss⟩ := exists_trimIdleEnd_append ss
  calc trimIdleEnd (trimIdleEnd ss)
      = trimIdleEnd (trimIdleEnd ss ++ idle) := (trimIdleEnd_append_idle hidle).symm
    _ = trimIdleEnd ss := by rw [← hss]

theorem trimIdleEnd_frontBody_trimmed (A : List String) :
    trimIdleEnd (frontBody (trimmed A)) = trimIdleEnd (frontBody A) := by
  cases A with
  | nil => rfl
  | cons a A =>
    by_cases hidle : isIdle a = true
    · have ha : a = "" ∨ a = "." := by simpa [isIdle] using hidle
      rcases ha with rfl | rfl
      · exact trimIdleEnd_trimIdleEnd A
      · exact trimIdleEnd_trimIdleEnd A
    · have hself (ss : List String) : frontBody (a :: ss) = a :: ss := by
        unfold frontBody
        split <;> simp_all [isIdle]
      have ha : isIdle a = false := by simpa using hidle
      rw [trimmed, hself, hself, trimIdleEnd_cons ha, trimIdleEnd_cons ha, trimIdleEnd_trimIdleEnd]

/-- What is not idle leads into the parent; a dot leads to the parent itself, if it has a text. -/
theorem components_withFileName (h : p.fileName? = some n) (hx : '/' ∉ x.toList) (hne : x ≠ "") :
    (p.withFileName x).components =
      if x = "." then if p.parent.components = [] then [.here] else p.parent.components
      else p.parent.components ++ [componentOf x] := by
  obtain ⟨A, hA⟩ := exists_endsIn h
  have hseg := hA.segments_withFileName hx
  rw [hA.components_parent]
  by_cases hdot : x = "."
  · subst hdot
    rw [if_pos rfl]
    cases A with
    | nil =>
      simp only [components, hseg]
      rfl
    | cons a A =>
      have hfront : frontComponents (a :: A) ≠ [] := by
        unfold frontComponents frontLead frontBody bodyComponents
        split <;> simp_all [Lead.components, isIdle]
      have htext : (p.withFileName ".").text ≠ "" := by
        intro hempty
        rw [segments, hempty] at hseg
        simp [trimmed] at hseg
      rw [if_neg hfront, components_eq_front htext, hseg,
        frontComponents_append_idle (by simp [trimmed]) (by simp [isIdle]),
        frontComponents_trimmed]
  · have hidle : isIdle x = false := by simp [isIdle, hne, hdot]
    rw [if_neg hdot, components_of_segments hseg hidle, frontComponents_trimmed]

theorem componentOf_injective {s t : String} (h : componentOf s = componentOf t) : s = t := by
  unfold componentOf at h
  split at h <;> split at h <;> simp_all

/-- Different texts in the place of the names of a directory lead to different places. -/
theorem eq_of_components_withFileName {q : Path} {m y : String} (hp : p.fileName? = some n)
    (hq : q.fileName? = some m) (hx : '/' ∉ x.toList ∧ x ≠ "") (hy : '/' ∉ y.toList ∧ y ≠ "")
    (hparent : p.parent.components = q.parent.components)
    (h : (p.withFileName x).components = (q.withFileName y).components) : x = y := by
  rw [components_withFileName hp hx.1 hx.2, components_withFileName hq hy.1 hy.2, hparent] at h
  -- a dot leads to the parent, and everything else one component further
  by_cases hxdot : x = "."
  · by_cases hydot : y = "."
    · rw [hxdot, hydot]
    · rw [if_pos hxdot, if_neg hydot] at h
      split at h
      · rename_i htop
        rw [htop] at h
        unfold componentOf at h
        split at h <;> simp at h
      · simp at h
  · by_cases hydot : y = "."
    · rw [if_neg hxdot, if_pos hydot] at h
      split at h
      · rename_i htop
        rw [htop] at h
        unfold componentOf at h
        split at h <;> simp at h
      · simp at h
    · rw [if_neg hxdot, if_neg hydot, List.append_cancel_left_eq] at h
      exact componentOf_injective (List.cons.inj h).1

/-- **Only names give siblings**: paths in the same directory that end with what was put there. -/
theorem isSibling_iff (h : p.fileName? = some n) :
    (p.withFileName x).parent = p.parent ∧ (p.withFileName x).fileName? = some x ↔ IsName x := by
  constructor
  · rintro ⟨-, hname⟩
    exact isName_of_fileName? hname
  · intro hx
    obtain ⟨A, hA⟩ := exists_endsIn h
    have hseg := hA.segments_withFileName hx.noSlash
    refine ⟨?_, ?_⟩
    · rw [parent_of_segments hseg hx.notIdle, frontLead_trimmed, trimIdleEnd_frontBody_trimmed,
        hA.parent_eq]
    · rw [fileName?, components_of_segments hseg hx.notIdle, hx.componentOf_eq]
      simp

end Path

end JellyViews
