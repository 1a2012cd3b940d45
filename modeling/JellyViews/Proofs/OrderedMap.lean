/-
**Laws of ordered maps.**

Main results:

* `OrderedMap.mem_keys_iff` — a key is listed exactly if it has a value;
* `OrderedMap.mem_entries_iff` — the entries are the keys with their values;
* `OrderedMap.erase_insert_self`, `OrderedMap.erase_of_get?_eq_none` — removing what was just put in
  leaves nothing behind, and removing an absent key changes nothing;
* `OrderedMap.entries_ofList_map` — a list with other values makes a map with other values;
* `OrderedMap.ofList_entries` — a map is the map of its pairs;
* `OrderedMap.entries_eq_of_views` — keys in order and their values are all there is to a map;
* `OrderedMap.keys_merge`, `OrderedMap.get?_merge` — **the order and the values of a map with
  another one over it**;
* `OrderedMap.keys_fill`, `OrderedMap.get?_fill` — and of a map with another one below it;
* `OrderedMap.keys_fill_merge`, `OrderedMap.get?_fill_merge` — and of a map between two others.

A map that misses several keys of another one is `OrderedMap.without`.
-/

import JellyViews.OrderedMap

set_option relaxedAutoImplicit false
set_option autoImplicit false

namespace JellyViews

variable {κ ν : Type} [DecidableEq κ]

namespace Entries

theorem find_eq_none_iff {k : κ} {es : List (κ × ν)} :
    find k es = none ↔ k ∉ es.map Prod.fst := by
  induction es with
  | nil => simp [find]
  | cons e r ih =>
    by_cases h : e.1 = k
    · simp [find, h]
    · have h' : ¬ k = e.1 := fun hk => h hk.symm
      simpa [find, h, h'] using ih

theorem drop_put_self (k : κ) (v : ν) (es : List (κ × ν)) : drop k (put k v es) = drop k es := by
  induction es with
  | nil => simp [put, drop]
  | cons e r ih =>
    by_cases h : e.1 = k
    · simp [put, drop, h]
    · have hput : put k v (e :: r) = e :: put k v r := by simp [put, h]
      have hdrop (es : List (κ × ν)) : drop k (e :: es) = e :: drop k es := by simp [drop, h]
      rw [hput, hdrop, hdrop, ih]

/-- Values may be mapped before or after they are put in. -/
theorem put_map {ω : Type} (f : ν → ω) (k : κ) (v : ν) (es : List (κ × ν)) :
    put k (f v) (es.map (Prod.map id f)) = (put k v es).map (Prod.map id f) := by
  induction es with
  | nil => rfl
  | cons e r ih =>
    obtain ⟨a, b⟩ := e
    by_cases h : a = k
    · simp [put, h]
    · simp [put, h, ih]

/-- A new key goes to the end. -/
theorem put_of_notMem {k : κ} {es : List (κ × ν)} (h : k ∉ es.map Prod.fst) (v : ν) :
    put k v es = es ++ [(k, v)] := by
  induction es with
  | nil => rfl
  | cons e r ih =>
    rw [List.map_cons, List.mem_cons, not_or] at h
    rw [put, if_neg (Ne.symm h.1), ih h.2, List.cons_append]

/-- What is sought among the pairs is found as before if neither the new nor the old pair of the
key is sought. -/
theorem filter_put {sought : κ × ν → Bool} {k : κ} {v : ν} {es : List (κ × ν)}
    (hv : sought (k, v) = false) (hes : ∀ b, (k, b) ∈ es → sought (k, b) = false) :
    (put k v es).filter sought = es.filter sought := by
  induction es with
  | nil => simp [put, hv]
  | cons e r ih =>
    obtain ⟨a, b⟩ := e
    by_cases h : a = k
    · subst h
      simp [put, hv, hes b List.mem_cons_self]
    · have hrest := ih fun b hb => hes b (List.mem_cons_of_mem _ hb)
      rw [put, if_neg h, List.filter_cons, List.filter_cons, hrest]

theorem mem_of_find {k : κ} {v : ν} {es : List (κ × ν)} (h : find k es = some v) :
    (k, v) ∈ es := by
  induction es with
  | nil => simp [find] at h
  | cons e r ih =>
    obtain ⟨a, b⟩ := e
    by_cases ha : a = k
    · obtain rfl : b = v := by simpa [find, ha] using h
      exact ha ▸ List.mem_cons_self
    · rw [find, if_neg ha] at h
      exact List.mem_cons_of_mem _ (ih h)

theorem find_of_mem {k : κ} {v : ν} {es : List (κ × ν)} (hes : (es.map Prod.fst).Nodup)
    (h : (k, v) ∈ es) : find k es = some v := by
  induction es with
  | nil => simp at h
  | cons e r ih =>
    obtain ⟨hhead, hr⟩ := List.nodup_cons.1 hes
    rcases List.mem_cons.1 h with rfl | h
    · rw [find, if_pos rfl]
    · have hk : e.1 ≠ k := by
        rintro rfl
        exact hhead (List.mem_map.2 ⟨_, h, rfl⟩)
      rw [find, if_neg hk, ih hr h]

omit [DecidableEq κ] in
/-- Lists with the same keys in the same order are the same, if one holds all pairs of the other. -/
theorem eq_of_forall_mem {es es' : List (κ × ν)} (hes : (es.map Prod.fst).Nodup)
    (hkeys : es.map Prod.fst = es'.map Prod.fst) (h : ∀ e ∈ es', e ∈ es) : es = es' := by
  induction es generalizing es' with
  | nil => exact (List.map_eq_nil_iff.1 hkeys.symm).symm
  | cons a es ih =>
    cases es' with
    | nil => simp at hkeys
    | cons e es' =>
      obtain ⟨hhead, htail⟩ := List.cons.inj hkeys
      obtain ⟨hnew, hes⟩ := List.nodup_cons.1 hes
      have he : e = a := by
        refine (List.mem_cons.1 (h e List.mem_cons_self)).resolve_right fun hel => ?_
        exact hnew (List.mem_map.2 ⟨e, hel, hhead.symm⟩)
      have hrest : es = es' := by
        refine ih hes htail fun b hb => ?_
        refine (List.mem_cons.1 (h b (List.mem_cons_of_mem _ hb))).resolve_left ?_
        -- the key of the first pair does not come again
        rintro rfl
        exact hnew (htail ▸ List.mem_map_of_mem hb)
      rw [he, hrest]

end Entries

namespace OrderedMap

/-- A key is listed exactly if it has a value. -/
theorem mem_keys_iff {m : OrderedMap κ ν} {k : κ} : k ∈ m.keys ↔ m.get? k ≠ none := by
  rw [Ne, get?, Entries.find_eq_none_iff, Decidable.not_not]
  rfl

/-- The entries are the keys with their values. -/
theorem mem_entries_iff {m : OrderedMap κ ν} {k : κ} {v : ν} :
    (k, v) ∈ m.entries ↔ m.get? k = some v :=
  ⟨Entries.find_of_mem m.nodup, Entries.mem_of_find⟩

theorem erase_insert_self (m : OrderedMap κ ν) (k : κ) (v : ν) :
    (m.insert k v).erase k = m.erase k :=
  ext (Entries.drop_put_self k v m.entries)

theorem erase_of_get?_eq_none {m : OrderedMap κ ν} {k : κ} (h : m.get? k = none) :
    m.erase k = m := by
  refine ext (List.filter_eq_self.2 ?_)
  intro e he
  have hk : k ∉ m.entries.map Prod.fst := Entries.find_eq_none_iff.1 h
  simp only [ne_eq, decide_eq_true_eq]
  rintro rfl
  exact hk (List.mem_map_of_mem he)

/-- Values may be mapped before or after the map is built. -/
theorem entries_ofList_map {ω : Type} (f : ν → ω) (es : List (κ × ν)) :
    (ofList (es.map (Prod.map id f))).entries = (ofList es).entries.map (Prod.map id f) := by
  have hall (m : OrderedMap κ ν) (m' : OrderedMap κ ω)
      (h : m'.entries = m.entries.map (Prod.map id f)) :
      (m'.insertAll (es.map (Prod.map id f))).entries =
        (m.insertAll es).entries.map (Prod.map id f) := by
    induction es generalizing m m' with
    | nil => exact h
    | cons e es ih =>
      refine ih (m.insert e.1 e.2) (m'.insert e.1 (f e.2)) ?_
      change Entries.put e.1 (f e.2) m'.entries = _
      rw [h, Entries.put_map]
      rfl
  exact hall empty empty rfl

/-- Pairs with new keys are inserted at the end. -/
theorem entries_insertAll {m : OrderedMap κ ν} {es : List (κ × ν)}
    (h : (m.entries.map Prod.fst ++ es.map Prod.fst).Nodup) :
    (m.insertAll es).entries = m.entries ++ es := by
  induction es generalizing m with
  | nil => simp [insertAll]
  | cons e es ih =>
    have hnew : e.1 ∉ m.entries.map Prod.fst := fun hmem =>
      (List.nodup_append.1 h).2.2 e.1 hmem e.1 (by simp) rfl
    have hinsert : (m.insert e.1 e.2).entries = m.entries ++ [e] :=
      Entries.put_of_notMem hnew e.2
    have hrest : (m.insertAll (e :: es)) = (m.insert e.1 e.2).insertAll es := rfl
    rw [hrest, ih (by simpa [hinsert] using h), hinsert, List.append_assoc, List.singleton_append]

/-- A map is the map of its pairs. -/
theorem ofList_entries (m : OrderedMap κ ν) : ofList m.entries = m :=
  ext (entries_insertAll (m := empty) (by simpa using m.nodup))

/-! ### Maps by their views -/

/-- Keys in order and their values are all there is to a map. -/
theorem entries_eq_of_views {m : OrderedMap κ ν} {es : List (κ × ν)}
    (hkeys : m.keys = es.map Prod.fst) (hvalues : ∀ e ∈ es, m.get? e.1 = some e.2) :
    m.entries = es :=
  Entries.eq_of_forall_mem m.nodup hkeys fun e he => mem_entries_iff.2 (hvalues e he)

omit [DecidableEq κ] in
/-- Keys may be selected with their values or without. -/
theorem map_fst_filter (m : OrderedMap κ ν) (sought : κ → Bool) :
    (m.entries.filter fun e => sought e.1).map Prod.fst = m.keys.filter sought := by
  rw [keys, List.filter_map]
  rfl

/-! ### Leaving out several keys -/

/-- The map without the keys of a list. -/
def without (m : OrderedMap κ ν) (ks : List κ) : OrderedMap κ ν :=
  ⟨m.entries.filter fun e => decide (e.1 ∉ ks),
    m.nodup.sublist (List.filter_sublist.map Prod.fst)⟩

theorem keys_without (m : OrderedMap κ ν) (ks : List κ) :
    (m.without ks).keys = m.keys.filter fun k => decide (k ∉ ks) :=
  m.map_fst_filter fun k => decide (k ∉ ks)

theorem get?_without (m : OrderedMap κ ν) (ks : List κ) (k : κ) :
    (m.without ks).get? k = if k ∈ ks then none else m.get? k := by
  ext v
  rw [← mem_entries_iff, without, List.mem_filter, mem_entries_iff, decide_eq_true_iff]
  split
  · rename_i h
    simp [h]
  · rename_i h
    simp [h]

@[simp] theorem without_nil (m : OrderedMap κ ν) : m.without [] = m :=
  ext (List.filter_eq_self.2 (by simp))

theorem erase_eq_without (m : OrderedMap κ ν) (k : κ) : m.erase k = m.without [k] :=
  ext (List.filter_congr (by simp))

theorem without_without (m : OrderedMap κ ν) (ks ks' : List κ) :
    (m.without ks).without ks' = m.without (ks ++ ks') := by
  refine ext ((List.filter_filter ..).trans (List.filter_congr fun e _ => ?_))
  simp [not_or, Bool.and_comm]

/-! ### One map over another, and one below another -/

/-- A new key goes to the end, and a key that is there stays where it is: then this is the order of
the keys at the end. -/
theorem keys_foldl {step : OrderedMap κ ν → κ × ν → OrderedMap κ ν} {es : List (κ × ν)}
    (hstep : ∀ m e, (step m e).keys = if e.1 ∈ m.keys then m.keys else m.keys ++ [e.1])
    (hes : (es.map Prod.fst).Nodup) (m : OrderedMap κ ν) :
    (es.foldl step m).keys =
      m.keys ++ (es.map Prod.fst).filter fun k => decide (k ∉ m.keys) := by
  induction es generalizing m with
  | nil => simp
  | cons e es ih =>
    obtain ⟨hnew, hes⟩ := List.nodup_cons.1 hes
    rw [List.foldl_cons, ih hes, hstep, List.map_cons]
    by_cases he : e.1 ∈ m.keys
    · rw [if_pos he, List.filter_cons_of_neg (by simpa using he)]
    · rw [if_neg he, List.filter_cons_of_pos (by simpa using he), List.append_assoc,
        List.singleton_append]
      -- the new key does not come again
      have hrest : ∀ k ∈ es.map Prod.fst,
          decide (k ∉ m.keys ++ [e.1]) = decide (k ∉ m.keys) := by
        intro k hk
        have hne : k ≠ e.1 := fun h => hnew (h ▸ hk)
        simp [hne]
      rw [List.filter_congr hrest]

theorem get?_insertAll {es : List (κ × ν)} (hes : (es.map Prod.fst).Nodup) (m : OrderedMap κ ν)
    (k : κ) : (m.insertAll es).get? k = (Entries.find k es).or (m.get? k) := by
  induction es generalizing m with
  | nil => rfl
  | cons e es ih =>
    obtain ⟨hnew, hes⟩ := List.nodup_cons.1 hes
    have hcons : m.insertAll (e :: es) = (m.insert e.1 e.2).insertAll es := rfl
    rw [hcons, ih hes, get?_insert, Entries.find]
    by_cases he : e.1 = k
    · have hnone : Entries.find k es = none := Entries.find_eq_none_iff.2 (he ▸ hnew)
      simp [he, hnone]
    · simp [he]

/-- The keys of the map keep their places, and the other keys of the one on top follow. -/
theorem keys_merge (m top : OrderedMap κ ν) :
    (m.merge top).keys = m.keys ++ top.keys.filter fun k => decide (k ∉ m.keys) :=
  keys_foldl (fun m e => keys_insert m e.1 e.2) top.nodup m

/-- The values of the map on top count first. -/
theorem get?_merge (m top : OrderedMap κ ν) (k : κ) :
    (m.merge top).get? k = (top.get? k).or (m.get? k) :=
  get?_insertAll top.nodup m k

/-- Gives the key a value if it has none. -/
def insertNew (m : OrderedMap κ ν) (e : κ × ν) : OrderedMap κ ν :=
  if m.contains e.1 then m else m.insert e.1 e.2

theorem keys_insertNew (m : OrderedMap κ ν) (e : κ × ν) :
    (m.insertNew e).keys = if e.1 ∈ m.keys then m.keys else m.keys ++ [e.1] := by
  have hmem : m.contains e.1 = true ↔ e.1 ∈ m.keys := by
    rw [mem_keys_iff, contains, Option.isSome_iff_ne_none]
  unfold insertNew
  by_cases he : e.1 ∈ m.keys
  · rw [if_pos (hmem.2 he), if_pos he]
  · rw [if_neg (mt hmem.1 he), keys_insert]

theorem get?_insertNew (m : OrderedMap κ ν) (e : κ × ν) (k : κ) :
    (m.insertNew e).get? k = (m.get? k).or (if e.1 = k then some e.2 else none) := by
  unfold insertNew contains
  cases he : m.get? e.1 with
  | some v =>
    by_cases hk : e.1 = k
    · subst hk
      simp [he]
    · simp [hk]
  | none =>
    by_cases hk : e.1 = k
    · subst hk
      simp [he]
    · simp [get?_insert, hk]

theorem fill_eq (m defaults : OrderedMap κ ν) :
    m.fill defaults = defaults.entries.foldl insertNew m := rfl

/-- The keys of the map come first, and the other keys of the one below follow. -/
theorem keys_fill (m defaults : OrderedMap κ ν) :
    (m.fill defaults).keys = m.keys ++ defaults.keys.filter fun k => decide (k ∉ m.keys) :=
  keys_foldl keys_insertNew defaults.nodup m

/-- The values of the map below count last. -/
theorem get?_fill (m defaults : OrderedMap κ ν) (k : κ) :
    (m.fill defaults).get? k = (m.get? k).or (defaults.get? k) := by
  rw [fill_eq]
  change _ = (m.get? k).or (Entries.find k defaults.entries)
  induction defaults.entries generalizing m with
  | nil => simp [Entries.find]
  | cons e es ih =>
    rw [List.foldl_cons, ih, get?_insertNew, Entries.find, Option.or_assoc]
    by_cases he : e.1 = k
    · simp [he]
    · simp [he]

/-- The order of a map with another one below it and a third one on top. -/
theorem keys_fill_merge (m defaults top : OrderedMap κ ν) :
    ((m.fill defaults).merge top).keys =
      m.keys ++ (defaults.keys.filter fun k => k ∉ m.keys) ++
        top.keys.filter fun k => k ∉ m.keys ++ defaults.keys := by
  have htop : (top.keys.filter fun k =>
      k ∉ m.keys ++ defaults.keys.filter fun k => k ∉ m.keys) =
      top.keys.filter fun k => k ∉ m.keys ++ defaults.keys := by
    refine List.filter_congr fun k _ => ?_
    by_cases hk : k ∈ m.keys <;> simp [hk]
  rw [keys_merge, keys_fill, htop]

/-- The values of a map with another one below it and a third one on top. -/
theorem get?_fill_merge (m defaults top : OrderedMap κ ν) (k : κ) :
    ((m.fill defaults).merge top).get? k =
      (top.get? k).or ((m.get? k).or (defaults.get? k)) := by
  rw [get?_merge, get?_fill]

end OrderedMap

end JellyViews
