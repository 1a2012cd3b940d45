/-
**Markers of expressions, and dotted names.**

A text has markers if it is `${`, at least one character and `}`.  Taking the markers away and
putting them around a text undo each other, as long as there is something between them: around
nothing the markers are a bare text again.

The leaf of a dotted name is its part behind the last dot.

Main definitions:

* `Expression.Unmarked` — a text and what is left of it without its markers;
* `Expression.LeafOf` — a dotted name and its leaf.

Main results:

* `Expression.unwrap?_eq_some_iff` — **what has markers**, and what is between them;
* `Expression.unwrap?_wrap`, `Expression.unwrap?_wrap_empty` — markers around a text;
* `Expression.unmarked_iff` — what is left of a text is what `Expression.stripMarkers` leaves;
* `Expression.stripMarkers_eq_empty_iff` — this is something, unless the text is empty;
* `Expression.leafOf_iff` — the leaf of a name is what `Expression.leaf` says.
-/

import JellyViews.Expression

set_option relaxedAutoImplicit false
set_option autoImplicit false

namespace JellyViews

namespace Expression

variable {token inner : String}

/-! ### Between the markers -/

theorem inner?_eq_some_iff {cs mid : List Char} :
    inner? cs = some mid ↔ mid ≠ [] ∧ cs = '$' :: '\x7b' :: (mid ++ ['\x7d']) := by
  constructor
  · intro h
    unfold inner? at h
    split at h
    · rename_i cs'
      split at h
      · rename_i c rest hrev
        obtain rfl := Option.some.inj h
        -- the characters in reverse are the closing marker and those between the markers
        have hcs : cs' = (c :: rest).reverse ++ ['\x7d'] := by
          rw [← List.reverse_reverse cs', hrev, List.reverse_cons]
        exact ⟨by simp, by rw [hcs]⟩
      · cases h
    · cases h
  · rintro ⟨hne, rfl⟩
    -- the last character between the markers comes first in reverse
    cases hrev : mid.reverse with
    | nil => exact absurd (List.reverse_eq_nil_iff.1 hrev) hne
    | cons c rest =>
      have hmid : mid = (c :: rest).reverse := by rw [← hrev, List.reverse_reverse]
      simp [inner?, hmid]

theorem toList_wrap (s : String) :
    (wrap s).toList = '$' :: '\x7b' :: (s.toList ++ ['\x7d']) := by
  simp [wrap, openMarker, closeMarker]

/-- **What has markers**: there is something between them. -/
theorem unwrap?_eq_some_iff : unwrap? token = some inner ↔ inner ≠ "" ∧ token = wrap inner := by
  have htoken : token = wrap inner ↔
      token.toList = '$' :: '\x7b' :: (inner.toList ++ ['\x7d']) := by
    rw [← toList_wrap, String.toList_inj]
  have hinner : inner ≠ "" ↔ inner.toList ≠ [] := not_congr String.toList_eq_nil_iff.symm
  rw [htoken, hinner, ← inner?_eq_some_iff, unwrap?, Option.map_eq_some_iff]
  constructor
  · rintro ⟨mid, hmid, rfl⟩
    rwa [String.toList_ofList]
  · exact fun h => ⟨_, h, String.ofList_toList⟩

theorem unwrap?_wrap (h : inner ≠ "") : unwrap? (wrap inner) = some inner :=
  unwrap?_eq_some_iff.2 ⟨h, rfl⟩

/-- Around nothing, the markers are a bare text. -/
theorem unwrap?_wrap_empty : unwrap? (wrap "") = none := rfl

/-! ### Texts without their markers -/

/-- What is left of a text: what is between its markers, or all of it if it has none. -/
inductive Unmarked : String → String → Prop
  | marked {inner : String} (h : inner ≠ "") : Unmarked ("$\x7b" ++ inner ++ "\x7d") inner
  | bare {s : String} (h : ∀ inner, inner ≠ "" → s ≠ "$\x7b" ++ inner ++ "\x7d") : Unmarked s s

theorem unmarked_iff {s x : String} : Unmarked s x ↔ x = stripMarkers s := by
  constructor
  · rintro (hx | hbare)
    · change x = (unwrap? (wrap x)).getD (wrap x)
      rw [unwrap?_wrap hx, Option.getD_some]
    · unfold stripMarkers
      cases h : unwrap? s with
      | some inner =>
        obtain ⟨hne, hwrap⟩ := unwrap?_eq_some_iff.1 h
        exact absurd hwrap (hbare inner hne)
      | none => rfl
  · rintro rfl
    unfold stripMarkers
    cases h : unwrap? s with
    | some inner =>
      obtain ⟨hne, rfl⟩ := unwrap?_eq_some_iff.1 h
      exact .marked hne
    | none =>
      refine .bare ?_
      rintro inner hne rfl
      have hinner : unwrap? (wrap inner) = none := h
      rw [unwrap?_wrap hne] at hinner
      cases hinner

/-- Something is left of every text but the empty one. -/
theorem stripMarkers_eq_empty_iff {s : String} : stripMarkers s = "" ↔ s = "" := by
  constructor
  · intro h
    unfold stripMarkers at h
    cases hs : unwrap? s with
    | some inner =>
      rw [hs] at h
      exact absurd h (unwrap?_eq_some_iff.1 hs).1
    | none => rwa [hs] at h
  · rintro rfl
    rfl

/-! ### Dotted names -/

/-- The leaf of a name: what is behind its last dot, or all of it if it has none. -/
inductive LeafOf : String → String → Prop
  | whole {s : String} (h : '.' ∉ s.toList) : LeafOf s s
  | behind (front : String) {s : String} (h : '.' ∉ s.toList) : LeafOf (front ++ "." ++ s) s

theorem takeWhile_reverse_append {cs : List Char} (h : '.' ∉ cs) (rest : List Char) :
    (cs.reverse ++ rest).takeWhile (fun c => c ≠ '.') =
      cs.reverse ++ rest.takeWhile fun c => c ≠ '.' := by
  refine List.takeWhile_append_of_pos fun c hc => ?_
  rw [List.mem_reverse] at hc
  exact decide_eq_true fun hdot => h (hdot ▸ hc)

theorem leafChars_of_notMem {cs : List Char} (h : '.' ∉ cs) : leafChars cs = cs := by
  have hall := takeWhile_reverse_append h []
  rw [List.append_nil, List.takeWhile_nil, List.append_nil] at hall
  rw [leafChars, hall, List.reverse_reverse]

/-- What is in front of a dot does not count. -/
theorem leafChars_append {cs : List Char} (front : List Char) (h : '.' ∉ cs) :
    leafChars (front ++ '.' :: cs) = cs := by
  have hrev : (front ++ '.' :: cs).reverse = cs.reverse ++ '.' :: front.reverse := by simp
  rw [leafChars, hrev, takeWhile_reverse_append h, List.takeWhile_cons_of_neg (by simp),
    List.append_nil, List.reverse_reverse]

/-- A name with a dot has a last one. -/
theorem exists_append_of_mem {cs : List Char} (h : '.' ∈ cs) :
    ∃ front s, '.' ∉ s ∧ cs = front ++ '.' :: s := by
  induction cs with
  | nil => simp at h
  | cons c cs ih =>
    by_cases hcs : '.' ∈ cs
    · obtain ⟨front, s, hs, rfl⟩ := ih hcs
      exact ⟨c :: front, s, hs, rfl⟩
    · obtain rfl : '.' = c := (List.mem_cons.1 h).resolve_right hcs
      exact ⟨[], cs, hcs, rfl⟩

theorem leafOf_iff {field x : String} : LeafOf field x ↔ x = leaf field := by
  constructor
  · rintro (hwhole | ⟨front, hbehind⟩)
    · rw [leaf, leafChars_of_notMem hwhole, String.ofList_toList]
    · have hlist : (front ++ "." ++ x).toList = front.toList ++ '.' :: x.toList := by simp
      rw [leaf, hlist, leafChars_append _ hbehind, String.ofList_toList]
  · rintro rfl
    by_cases hdot : '.' ∈ field.toList
    · obtain ⟨front, s, hs, hfield⟩ := exists_append_of_mem hdot
      have hname : field = String.ofList front ++ "." ++ String.ofList s := by
        rw [← String.toList_inj, hfield]
        simp
      have hleaf : leaf field = String.ofList s := by
        rw [leaf, hfield, leafChars_append _ hs]
      rw [hleaf, hname]
      exact .behind _ (by simpa using hs)
    · have hleaf : leaf field = field := by
        rw [leaf, leafChars_of_notMem hdot, String.ofList_toList]
      rw [hleaf]
      exact .whole hdot

end Expression

end JellyViews
