/-
**The algebra of maps on top of each other.**

Defaults are put in first and explicit values on top, and there may be several layers of both.  A
map is known by the order of its keys and by their values, and for a merged map both are known; so
how the layers are grouped makes no difference, not even to the order.

Main results:

* `OrderedMap.eq_of_views` — keys in order and their values are all there is to a map;
* `OrderedMap.merge_assoc`, `OrderedMap.merge_self` — layers may be grouped, and repeated;
* `OrderedMap.merge_overrides` — **the laws of maps on top of each other**.
-/

import JellyViews.Proofs.OrderedMap

set_option relaxedAutoImplicit false
set_option autoImplicit false

namespace JellyViews

namespace OrderedMap

variable {κ ν : Type} [DecidableEq κ] {m m' : OrderedMap κ ν}

/-- Maps with the same keys in the same order and the same values are the same. -/
theorem eq_of_views (hkeys : m.keys = m'.keys) (hvalues : ∀ k, m.get? k = m'.get? k) : m = m' := by
  refine ext (entries_eq_of_views hkeys fun e he => ?_)
  rw [hvalues, ← mem_entries_iff]
  exact he

@[simp] theorem merge_empty (m : OrderedMap κ ν) : m.merge ∅ = m := rfl

@[simp] theorem empty_merge (m : OrderedMap κ ν) : (∅ : OrderedMap κ ν).merge m = m :=
  ofList_entries m

/-- The same map on top changes nothing. -/
theorem merge_self (m : OrderedMap κ ν) : m.merge m = m := by
  refine eq_of_views ?_ fun k => ?_
  · have hnone : (m.keys.filter fun k => decide (k ∉ m.keys)) = [] :=
      List.filter_eq_nil_iff.2 fun k hk => by simpa using hk
    rw [keys_merge, hnone, List.append_nil]
  · rw [get?_merge, Option.or_self]

/-- Layers may be grouped. -/
theorem merge_assoc (a b c : OrderedMap κ ν) : (a.merge b).merge c = a.merge (b.merge c) := by
  refine eq_of_views ?_ fun k => ?_
  · -- a key of the uppermost layer is new if it is in neither of the other two
    have hnew : (c.keys.filter fun k => decide (k ∉ (a.merge b).keys)) =
        (c.keys.filter fun k => decide (k ∉ b.keys)).filter fun k => decide (k ∉ a.keys) := by
      rw [List.filter_filter]
      refine List.filter_congr fun k _ => ?_
      by_cases hk : k ∈ a.keys <;> simp [keys_merge, hk]
    calc ((a.merge b).merge c).keys
        = a.keys ++ (b.keys.filter fun k => decide (k ∉ a.keys)) ++
            (c.keys.filter fun k => decide (k ∉ b.keys)).filter fun k => decide (k ∉ a.keys) := by
          rw [keys_merge, hnew, keys_merge]
      _ = (a.merge (b.merge c)).keys := by
          rw [keys_merge a, keys_merge b, List.filter_append, List.append_assoc]
  · simp only [get?_merge, Option.or_assoc]

/-- **The laws of maps on top of each other.**  Layers may be grouped, an empty layer and a repeated
one change nothing; keys keep the place that the lowest layer gives them, and have the value that
the uppermost one gives them. -/
theorem merge_overrides (a b c : OrderedMap κ ν) :
    (a.merge b).merge c = a.merge (b.merge c) ∧
    (∅ : OrderedMap κ ν).merge a = a ∧
    a.merge ∅ = a ∧
    a.merge a = a ∧
    (a.merge b).keys = a.keys ++ (b.keys.filter fun k => decide (k ∉ a.keys)) ∧
    (∀ k ∈ b.keys, (a.merge b).get? k = b.get? k) ∧
    ∀ k, k ∉ b.keys → (a.merge b).get? k = a.get? k := by
  refine ⟨merge_assoc a b c, empty_merge a, merge_empty a, merge_self a, keys_merge a b,
    fun k hk => ?_, fun k hk => ?_⟩
  · obtain ⟨v, hv⟩ := Option.ne_none_iff_exists'.1 (mem_keys_iff.1 hk)
    rw [get?_merge, hv, Option.some_or]
  · rw [mem_keys_iff, Decidable.not_not] at hk
    rw [get?_merge, hk, Option.none_or]

/-- Of three layers that overlap, each one overrides the value below it. -/
theorem merge_overrides_three :
    let defaults := ofList [("name", "x"), ("value", "d")]
    let declared := ofList [("class", "c"), ("value", "e")]
    let given := ofList [("id", "i"), ("name", "y")]
    (defaults.merge (declared.merge given)).keys = ["name", "value", "class", "id"] ∧
      ((defaults.merge declared).merge given).get? "name" = some "y" ∧
      ((defaults.merge declared).merge given).get? "value" = some "e" := by
  intro defaults declared given
  obtain ⟨-, -, -, -, hkeys, hover, hunder⟩ :=
    merge_overrides (defaults.merge declared) given ∅
  obtain ⟨hgrouped, -, -, -, -, hdeclared, -⟩ := merge_overrides defaults declared given
  refine ⟨?_, ?_, ?_⟩
  · rw [← hgrouped, hkeys]
    decide
  · rw [hover "name" (by decide)]
    decide
  · rw [hunder "value" (by decide), hdeclared "value" (by decide)]
    decide

end OrderedMap

end JellyViews
