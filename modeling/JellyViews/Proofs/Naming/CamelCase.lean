/-
**Names in camel case.**

The camel case of a name is made in one pass, which drops the underscores and remembers whether the
next character is to be upper-cased.  What comes out can be said without the pass: the name is
split at its underscores into words, and the words are put together, all but the first with a
capital.  Leading, trailing and repeated underscores leave no words behind, so they do not count.

Main definitions:

* `Naming.words` — the words of a name;
* `Naming.capitalize`, `Naming.joinWords` — words put together;
* `Naming.underscores` — a run of underscores.

Main results:

* `Naming.camelCase_eq_joinWords` — **the camel case of a name is its words, put together**;
* `Naming.underscore_notMem_camelChars` — no underscore is left;
* `Naming.camelChars_eq_nil_iff` — nothing is left of underscores alone;
* `Naming.camelCase_joins_words` — the law, and what follows from it.
-/

import JellyViews.Naming
import JellyViews.Proofs.Text.Uppercase

set_option relaxedAutoImplicit false
set_option autoImplicit false

namespace JellyViews

namespace Naming

/-! ### Words -/

/-- The words of a name: its parts between underscores, without the empty ones. -/
def words (cs : List Char) : List (List Char) := (cs.splitOn '_').filter fun w => w ≠ []

/-- A word with a capital: its first character in upper case. -/
def capitalize : List Char → List Char
  | [] => []
  | c :: cs => Text.upperCase c ++ cs

/-- Words put together, all but the first with a capital. -/
def joinWords : List (List Char) → List Char
  | [] => []
  | w :: ws => w ++ ws.flatMap capitalize

/-- Underscores between two parts separate their words. -/
theorem words_append_underscore (xs ys : List Char) :
    words (xs ++ '_' :: ys) = words xs ++ words ys := by
  rw [words, List.splitOn_append_cons_self, List.filter_append, ← words, ← words]

@[simp] theorem words_nil : words [] = [] := rfl

@[simp] theorem words_underscore (cs : List Char) : words ('_' :: cs) = words cs :=
  words_append_underscore [] cs

/-- A further underscore beside an underscore separates nothing. -/
theorem words_replicate_append (n : Nat) (cs : List Char) :
    words (List.replicate n '_' ++ cs) = words cs := by
  induction n with
  | zero => rfl
  | succ n ih => rw [List.replicate_succ, List.cons_append, words_underscore, ih]

theorem words_append_replicate (cs : List Char) (n : Nat) :
    words (cs ++ List.replicate n '_') = words cs := by
  cases n with
  | zero => rw [List.replicate_zero, List.append_nil]
  | succ n =>
    have hnone : words (List.replicate n '_') = [] := by
      simpa using words_replicate_append n []
    rw [List.replicate_succ, words_append_underscore, hnone, List.append_nil]

/-- A character that is no underscore belongs to the first word. -/
theorem words_cons {c : Char} (hc : c ≠ '_') {cs w : List Char} {ws : List (List Char)}
    (h : cs.splitOn '_' = w :: ws) :
    words (c :: cs) = (c :: w) :: ws.filter fun v => v ≠ [] := by
  rw [words, List.splitOn_cons_eq_if_modifyHead, h, if_neg (by simpa using hc)]
  rfl

/-! ### The pass over the characters -/

/-- What the pass makes of the characters behind the first one that it kept: the rest of the
current word and the words behind it, or only words if an underscore was just dropped. -/
theorem camelChars_started {cs w : List Char} {ws : List (List Char)}
    (h : cs.splitOn '_' = w :: ws) :
    camelChars true false cs = w ++ (ws.filter fun v => v ≠ []).flatMap capitalize ∧
    camelChars true true cs = (words cs).flatMap capitalize := by
  induction cs generalizing w ws with
  | nil =>
    obtain ⟨rfl, rfl⟩ := List.cons.inj h
    exact ⟨rfl, rfl⟩
  | cons c cs ih =>
    obtain ⟨v, vs, hsplit⟩ := List.exists_cons_of_ne_nil (List.splitOn_ne_nil '_' cs)
    obtain ⟨hinside, hbetween⟩ := ih hsplit
    rw [List.splitOn_cons_eq_if_modifyHead, hsplit] at h
    by_cases hc : c = '_'
    · subst hc
      obtain ⟨rfl, rfl⟩ := List.cons.inj h
      rw [words_underscore, camelChars, if_pos rfl, camelChars, if_pos rfl, hbetween, words, hsplit]
      exact ⟨rfl, rfl⟩
    · rw [if_neg (by simpa using hc), List.modifyHead_cons] at h
      obtain ⟨rfl, rfl⟩ := List.cons.inj h
      rw [camelChars, if_neg hc, camelChars, if_neg hc, hinside, words_cons hc hsplit,
        List.flatMap_cons]
      exact ⟨rfl, (List.append_assoc ..).symm⟩

/-- **The camel case of a name is its words, put together.** -/
theorem camelChars_eq_joinWords (cs : List Char) :
    camelChars false false cs = joinWords (words cs) := by
  induction cs with
  | nil => rfl
  | cons c cs ih =>
    by_cases hc : c = '_'
    · subst hc
      rw [words_underscore, camelChars, if_pos rfl, ih]
    · obtain ⟨w, ws, hsplit⟩ := List.exists_cons_of_ne_nil (List.splitOn_ne_nil '_' cs)
      rw [words_cons hc hsplit, camelChars, if_neg hc, (camelChars_started hsplit).1]
      rfl

theorem camelCase_eq_joinWords (s : String) :
    camelCase s = String.ofList (joinWords (words s.toList)) :=
  congrArg String.ofList (camelChars_eq_joinWords s.toList)

/-- The camel case depends on the words alone. -/
theorem camelCase_congr {s t : String} (h : words s.toList = words t.toList) :
    camelCase s = camelCase t := by
  rw [camelCase_eq_joinWords, camelCase_eq_joinWords, h]

/-! ### What is left -/

/-- No underscore is left: upper-casing makes none. -/
theorem underscore_notMem_camelChars (started capital : Bool) (cs : List Char) :
    '_' ∉ camelChars started capital cs := by
  induction cs generalizing started capital with
  | nil => exact List.not_mem_nil
  | cons c cs ih =>
    rw [camelChars]
    by_cases hc : c = '_'
    · rw [if_pos hc]
      exact ih _ _
    · rw [if_neg hc]
      split
      · rw [List.mem_append, Text.underscore_mem_upperCase_iff, not_or]
        exact ⟨hc, ih _ _⟩
      · rw [List.mem_cons, not_or]
        exact ⟨Ne.symm hc, ih _ _⟩

/-- A name without underscores is its own camel case. -/
theorem camelChars_of_notMem {cs : List Char} (h : '_' ∉ cs) (started : Bool) :
    camelChars started false cs = cs := by
  induction cs generalizing started with
  | nil => rfl
  | cons c cs ih =>
    rw [List.mem_cons, not_or] at h
    rw [camelChars, if_neg (Ne.symm h.1), if_neg Bool.false_ne_true, ih h.2]

/-- Nothing is left of underscores alone, and something of every other name. -/
theorem camelChars_eq_nil_iff (cs : List Char) :
    camelChars false false cs = [] ↔ ∀ c ∈ cs, c = '_' := by
  induction cs with
  | nil => simp [camelChars]
  | cons c cs ih =>
    rw [camelChars, List.forall_mem_cons]
    by_cases hc : c = '_'
    · rw [if_pos hc, ih, and_iff_right hc]
    · simp [hc]

theorem camelCase_eq_empty_iff (s : String) : camelCase s = "" ↔ ∀ c ∈ s.toList, c = '_' := by
  rw [camelCase, String.ofList_eq_empty_iff, camelChars_eq_nil_iff]

/-! ### The law -/

/-- A run of underscores. -/
def underscores (n : Nat) : String := String.ofList (List.replicate n '_')

/-- **The camel case of a name is made of its words.**  So it has no underscore and is its own camel
case, it is empty for underscores alone, and leading, trailing and repeated underscores do not
count. -/
theorem camelCase_joins_words (s : String) :
    camelCase s = String.ofList (joinWords (words s.toList)) ∧
    '_' ∉ (camelCase s).toList ∧
    (camelCase s = "" ↔ ∀ c ∈ s.toList, c = '_') ∧
    camelCase (camelCase s) = camelCase s ∧
    (∀ m n, camelCase (underscores m ++ s ++ underscores n) = camelCase s) ∧
    ∀ t n, camelCase (s ++ underscores (n + 1) ++ t) = camelCase (s ++ "_" ++ t) := by
  have hnone : '_' ∉ (camelCase s).toList := by
    rw [camelCase, String.toList_ofList]
    exact underscore_notMem_camelChars false false _
  refine ⟨camelCase_eq_joinWords s, hnone, camelCase_eq_empty_iff s, ?_, ?_, ?_⟩
  · rw [camelCase, camelChars_of_notMem hnone, String.ofList_toList]
  · intro m n
    refine camelCase_congr ?_
    rw [String.toList_append, String.toList_append, underscores, underscores, String.toList_ofList,
      String.toList_ofList, words_append_replicate, words_replicate_append]
  · intro t n
    refine camelCase_congr ?_
    have hone : (s ++ "_" ++ t).toList = s.toList ++ '_' :: t.toList := by simp
    have hmany : (s ++ underscores (n + 1) ++ t).toList =
        s.toList ++ '_' :: (List.replicate n '_' ++ t.toList) := by
      simp [underscores, List.replicate_succ]
    rw [hone, hmany, words_append_underscore, words_append_underscore, words_replicate_append]

/-- The first word stays as it is, and an upper case may be longer than its letter. -/
example : camelCase "__expandable_\u00dfig__text_" = "expandableSSigText" := by decide

end Naming

end JellyViews
