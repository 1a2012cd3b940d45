/-
**The order of paths.**

Paths are compared component by component, so the order does not see how a path is written.  It is
total and transitive, hence sorting by it works; of two paths in one directory the one comes first
whose name does, and a name comes before every name that goes on behind it.

Main results:

* `Path.precedes_total`, `Path.precedes_trans` — **the order is linear on components**;
* `Path.pairwise_mergeSort_precedes` — sorted paths are in order;
* `Path.componentsPrecede_append_left` — what paths have in common does not count;
* `Path.lt_append` — a name comes before the names that it begins.
-/

import JellyViews.Path

set_option relaxedAutoImplicit false
set_option autoImplicit false

namespace JellyViews

namespace Path

/-! ### Components -/

namespace Component

/-- Names are ordered by their text. -/
theorem precedes_name {s t : String} : (name s).precedes (name t) = true ↔ s < t := by
  rw [precedes, decide_eq_true_eq]

/-- Other components are ordered by rank. -/
theorem precedes_eq_rank {a b : Component} (h : ¬ ∃ s t, a = name s ∧ b = name t) :
    a.precedes b = decide (a.rank < b.rank) := by
  unfold precedes
  split
  · rename_i s t
    exact absurd ⟨s, t, rfl, rfl⟩ h
  · rfl

theorem rank_eq {a b : Component} (h : a.rank = b.rank) :
    a = b ∨ ∃ s t, a = name s ∧ b = name t := by
  cases a <;> cases b <;> simp_all [rank]

theorem rank_le_of_precedes {a b : Component} (h : a.precedes b = true) : a.rank ≤ b.rank := by
  by_cases hname : ∃ s t, a = name s ∧ b = name t
  · obtain ⟨s, t, rfl, rfl⟩ := hname
    exact Nat.le_refl _
  · rw [precedes_eq_rank hname, decide_eq_true_eq] at h
    omega

theorem precedes_of_rank_lt {a b : Component} (h : a.rank < b.rank) : a.precedes b = true := by
  rw [precedes_eq_rank, decide_eq_true_eq]
  · exact h
  · rintro ⟨s, t, rfl, rfl⟩
    exact Nat.lt_irrefl _ h

theorem precedes_total {a b : Component} (h : a ≠ b) :
    a.precedes b = true ∨ b.precedes a = true := by
  rcases Nat.lt_trichotomy a.rank b.rank with hrank | hrank | hrank
  · exact Or.inl (precedes_of_rank_lt hrank)
  · rcases rank_eq hrank with heq | ⟨s, t, rfl, rfl⟩
    · exact absurd heq h
    · rw [precedes_name, precedes_name]
      by_cases hst : s < t
      · exact Or.inl hst
      · refine Or.inr (Classical.byContradiction fun hts => h ?_)
        rw [String.le_antisymm (String.not_lt.1 hts) (String.not_lt.1 hst)]
  · exact Or.inr (precedes_of_rank_lt hrank)

theorem precedes_irrefl (a : Component) : a.precedes a = false := by
  rw [Bool.eq_false_iff]
  intro h
  by_cases hname : ∃ s t, a = name s ∧ a = name t
  · obtain ⟨s, -, rfl, -⟩ := hname
    exact String.lt_irrefl s (precedes_name.1 h)
  · rw [precedes_eq_rank hname, decide_eq_true_eq] at h
    omega

theorem precedes_trans {a b c : Component} (hab : a.precedes b = true)
    (hbc : b.precedes c = true) : a.precedes c = true := by
  have hrank := rank_le_of_precedes hab
  have hrank' := rank_le_of_precedes hbc
  rcases Nat.lt_or_ge a.rank c.rank with hlt | hge
  · exact precedes_of_rank_lt hlt
  · -- all three have one rank, so they are names unless two of them are the same
    rcases rank_eq (show a.rank = b.rank by omega) with rfl | ⟨s, t, rfl, rfl⟩
    · exact hbc
    · rcases rank_eq (show (name t).rank = c.rank by omega) with rfl | ⟨t', u, ht, rfl⟩
      · exact hab
      · exact precedes_name.2 (String.lt_trans (precedes_name.1 hab)
          (precedes_name.1 hbc))

theorem ne_of_precedes {a b : Component} (h : a.precedes b = true) : a ≠ b := by
  rintro rfl
  rw [precedes_irrefl] at h
  exact Bool.noConfusion h

end Component

/-! ### Lists of components -/

theorem componentsPrecede_total (as bs : List Component) :
    componentsPrecede as bs = true ∨ componentsPrecede bs as = true := by
  induction as generalizing bs with
  | nil => exact Or.inl rfl
  | cons a as ih =>
    cases bs with
    | nil => exact Or.inr rfl
    | cons b bs =>
      by_cases h : a = b
      · subst h
        simpa [componentsPrecede] using ih bs
      · simpa [componentsPrecede, h, Ne.symm h] using Component.precedes_total h

theorem componentsPrecede_trans {as bs cs : List Component}
    (hab : componentsPrecede as bs = true) (hbc : componentsPrecede bs cs = true) :
    componentsPrecede as cs = true := by
  induction as generalizing bs cs with
  | nil => rfl
  | cons a as ih =>
    cases bs with
    | nil => simp [componentsPrecede] at hab
    | cons b bs =>
      cases cs with
      | nil => simp [componentsPrecede] at hbc
      | cons c cs =>
        simp only [componentsPrecede] at hab hbc ⊢
        -- the first place where two of the lists differ decides about the third
        by_cases h : a = b
        · subst h
          rw [if_pos rfl] at hab
          by_cases h' : a = c
          · rw [if_pos h'] at hbc ⊢
            exact ih hab hbc
          · rw [if_neg h'] at hbc ⊢
            exact hbc
        · rw [if_neg h] at hab
          by_cases h' : b = c
          · subst h'
            rw [if_neg h]
            exact hab
          · rw [if_neg h'] at hbc
            have hac := Component.precedes_trans hab hbc
            rw [if_neg (Component.ne_of_precedes hac)]
            exact hac

theorem componentsPrecede_antisymm {as bs : List Component}
    (hab : componentsPrecede as bs = true) (hba : componentsPrecede bs as = true) : as = bs := by
  induction as generalizing bs with
  | nil =>
    cases bs with
    | nil => rfl
    | cons b bs => simp [componentsPrecede] at hba
  | cons a as ih =>
    cases bs with
    | nil => simp [componentsPrecede] at hab
    | cons b bs =>
      simp only [componentsPrecede] at hab hba
      by_cases h : a = b
      · subst h
        rw [if_pos rfl] at hab hba
        rw [ih hab hba]
      · rw [if_neg h] at hab
        rw [if_neg (Ne.symm h)] at hba
        exact absurd rfl (Component.ne_of_precedes (Component.precedes_trans hab hba))

/-- What two lists have in common in front does not count. -/
theorem componentsPrecede_append_left (cs as bs : List Component) :
    componentsPrecede (cs ++ as) (cs ++ bs) = componentsPrecede as bs := by
  induction cs with
  | nil => rfl
  | cons c cs ih => simpa [componentsPrecede] using ih

/-! ### Paths -/

theorem precedes_total (p q : Path) : (p.precedes q || q.precedes p) = true := by
  simpa [precedes] using componentsPrecede_total p.components q.components

theorem precedes_trans (p q r : Path) (hpq : p.precedes q = true) (hqr : q.precedes r = true) :
    p.precedes r = true :=
  componentsPrecede_trans hpq hqr

theorem precedes_antisymm {p q : Path} (hpq : p.precedes q = true) (hqp : q.precedes p = true) :
    p.components = q.components :=
  componentsPrecede_antisymm hpq hqp

theorem pairwise_mergeSort_precedes (ps : List Path) :
    (ps.mergeSort precedes).Pairwise fun p q => p.precedes q = true :=
  List.pairwise_mergeSort precedes_trans precedes_total ps

/-- A name comes before the names that it begins. -/
theorem lt_append (s : String) {t : String} (h : t ≠ "") : s < s ++ t := by
  rw [String.lt_iff, String.toList_append]
  have hnil : [] < t.toList := by
    cases ht : t.toList with
    | nil => exact absurd (by simpa using ht) h
    | cons c cs => exact List.nil_lt_cons c cs
  have hlt : s.toList ++ [] < s.toList ++ t.toList := List.append_left_lt hnil
  rwa [List.append_nil] at hlt

end Path

end JellyViews
