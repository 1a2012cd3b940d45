/-
**Upper-casing makes no underscores.**

The full mapping turns a character into up to three others, by tables of runs and of exceptions.
Whatever is in the tables, an underscore is the upper case of itself alone.

Main results:

* `Text.underscore_mem_upperCase_iff` — **only an underscore becomes an underscore**;
* `Text.of_ascii` — a property that the ASCII characters have.
-/

import JellyViews.Text.Uppercase

set_option relaxedAutoImplicit false
set_option autoImplicit false

namespace JellyViews

namespace Text

variable {c d : Char}

/-- What holds of the first 128 characters holds of every ASCII character. -/
theorem of_ascii {p : Char → Prop} (h : ∀ n < 128, p (Char.ofNat n)) (hc : c.toNat < 128) :
    p c := by
  have hchar := h c.toNat hc
  rwa [Char.ofNat_toNat] at hchar

theorem upperCase_of_ascii (h : c.toNat < 128) : upperCase c = [c.toUpper] := if_pos h

/-- The images of a run lie on one side of the underscore. -/
theorem upperRuns_avoid :
    ∀ r ∈ upperRuns, '_'.toNat < r.image ∨ r.image + (r.last - r.first) < '_'.toNat := by
  decide +kernel

theorem upperExpansions_avoid : ∀ e ∈ upperExpansions, '_' ∉ e.2.map Char.ofNat := by
  decide +kernel

theorem eq_underscore_of_ofNat_eq {n : Nat} (h : Char.ofNat n = '_') : n = '_'.toNat := by
  by_cases hvalid : n.isValidChar
  · rw [Char.ofNat, dif_pos hvalid] at h
    exact congrArg Char.toNat h
  · -- a number that is no code point gives the null character
    rw [Char.ofNat, dif_neg hvalid] at h
    exact absurd h (by decide)

/-- No run has an underscore among its images. -/
theorem ne_underscore_of_imageOf? (h : CaseRun.imageOf? upperRuns c = some d) : d ≠ '_' := by
  obtain ⟨r, hr, rfl⟩ := Option.map_eq_some_iff.1 h
  intro heq
  have hnat := eq_underscore_of_ofNat_eq heq
  have hholds : r.holds c.toNat = true := by simpa using List.find?_some hr
  simp only [CaseRun.holds, Bool.and_eq_true, decide_eq_true_eq] at hholds
  have hside := upperRuns_avoid r (List.mem_of_find?_eq_some hr)
  omega

/-- **Only an underscore becomes an underscore.** -/
theorem underscore_mem_upperCase_iff : '_' ∈ upperCase c ↔ c = '_' := by
  constructor
  · intro h
    by_cases hascii : c.toNat < 128
    · rw [upperCase_of_ascii hascii, List.mem_singleton] at h
      exact of_ascii (p := fun c => '_' = c.toUpper → c = '_') (by decide) hascii h
    · rw [upperCase, if_neg hascii] at h
      split at h
      · rename_i n u us hfind
        exact absurd h (upperExpansions_avoid _ (List.mem_of_find?_eq_some hfind))
      · rw [List.mem_singleton] at h
        cases himage : CaseRun.imageOf? upperRuns c with
        | some d =>
          rw [himage, Option.getD_some] at h
          exact absurd h.symm (ne_underscore_of_imageOf? himage)
        | none =>
          rw [himage, Option.getD_none] at h
          exact h.symm
  · rintro rfl
    decide

end Text

end JellyViews
