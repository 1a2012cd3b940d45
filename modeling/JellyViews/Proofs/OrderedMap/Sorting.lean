/-
**Maps in the order of their keys.**

Sorting forgets in which order the keys came: maps with the same pairs are the same when they are
sorted.

Main results:

* `OrderedMap.perm_entries_sortBy` — sorting keeps the pairs;
* `OrderedMap.pairwise_keys_sortBy` — the keys are in order, and no key comes twice;
* `OrderedMap.sortBy_eq_of_perm` — **the sorted map does not depend on the order**.
-/

import Mathlib.Data.List.Nodup
import JellyViews.Proofs.OrderedMap

set_option relaxedAutoImplicit false
set_option autoImplicit false

namespace JellyViews

namespace OrderedMap

variable {κ ν : Type} {le : κ → κ → Bool}

theorem perm_entries_sortBy (le : κ → κ → Bool) (m : OrderedMap κ ν) :
    (m.sortBy le).entries.Perm m.entries :=
  List.mergeSort_perm _ _

section

variable (htrans : ∀ a b c, le a b = true → le b c = true → le a c = true)
variable (htotal : ∀ a b, (le a b || le b a) = true)

include htrans htotal

theorem pairwise_entries_sortBy (m : OrderedMap κ ν) :
    (m.sortBy le).entries.Pairwise fun a b => le a.1 b.1 = true :=
  List.pairwise_mergeSort (fun a b c => htrans a.1 b.1 c.1) (fun a b => htotal a.1 b.1) _

/-- The keys are in order, and no key comes twice. -/
theorem pairwise_keys_sortBy (m : OrderedMap κ ν) :
    (m.sortBy le).keys.Pairwise fun a b => le a b = true ∧ a ≠ b :=
  (List.pairwise_map.2 (pairwise_entries_sortBy htrans htotal m)).and (m.sortBy le).keys_nodup

/-- **The sorted map does not depend on the order.** -/
theorem sortBy_eq_of_perm (hantisymm : ∀ a b, le a b = true → le b a = true → a = b)
    {m m' : OrderedMap κ ν} (h : m.entries.Perm m'.entries) : m.sortBy le = m'.sortBy le := by
  have hperm : (m.sortBy le).entries.Perm (m'.sortBy le).entries :=
    (m.perm_entries_sortBy le).trans (h.trans (m'.perm_entries_sortBy le).symm)
  refine ext (hperm.eq_of_pairwise (fun a b ha hb hab hba => ?_)
    (pairwise_entries_sortBy htrans htotal m) (pairwise_entries_sortBy htrans htotal m'))
  -- pairs with the same key are the same pair
  have hkey : a.1 = b.1 := hantisymm _ _ hab hba
  have hinj := List.inj_on_of_nodup_map (m.sortBy le).nodup
  exact hinj ha (hperm.mem_iff.2 hb) hkey

end

end OrderedMap

end JellyViews
