/-
**Registries as finite maps.**

A registry is used through the operation that each name has in it.  Putting an operation at its
place gives its name this operation and leaves all other names alone; so a registry that only grows
by names that are not taken keeps every meaning it had.

Main definitions:

* `Tag.Registry.Within` — every name of one registry means the same in another.

Main results:

* `Tag.Registry.find?_insert` — what a name means after an insertion;
* `Tag.Registry.mem_ops_iff` — the operations that are listed are those that names have;
* `Tag.Registry.register_eq_ok_iff`, `Tag.Registry.register_eq_error_iff` — **a name that is taken
  is refused**, and nothing else is;
* `Tag.Registry.perm_insert`, `Tag.Registry.within_insert` — an operation with a new name comes on
  top of the others, and leaves their names alone;
* `Tag.Registry.find?_standard` — the vocabulary is found by its names.
-/

import Mathlib.Data.List.Perm.Basic
import JellyViews.Tag.Registry

set_option relaxedAutoImplicit false
set_option autoImplicit false

namespace JellyViews

namespace Tag

/-! ### Ordered lists of operations -/

theorem findNamed_cons (name : String) (a : Operation) (ops : List Operation) :
    findNamed name (a :: ops) = if a.name = name then some a else findNamed name ops := by
  unfold findNamed
  rw [List.find?_cons]
  by_cases h : a.name = name
  · simp [h]
  · rw [beq_eq_false_iff_ne.2 h, if_neg h]

theorem findNamed_place (name : String) (op : Operation) (ops : List Operation) :
    findNamed name (place op ops) = if op.name = name then some op else findNamed name ops := by
  induction ops with
  | nil => exact findNamed_cons name op []
  | cons a r ih =>
    unfold place
    split
    · exact findNamed_cons name op (a :: r)
    · rename_i hle
      split
      · rename_i hlt
        rw [findNamed_cons, ih, findNamed_cons]
        by_cases ha : a.name = name
        · have hop : op.name ≠ name := fun hop => String.lt_irrefl _ (hop ▸ ha ▸ hlt)
          rw [if_pos ha, if_neg hop, if_pos ha]
        · rw [if_neg ha, if_neg ha]
      · rename_i hge
        -- the operation stands in for one of its name
        have hname : a.name = op.name := name_eq_of_not_lt hge hle
        rw [findNamed_cons, findNamed_cons, hname]
        by_cases hop : op.name = name <;> simp [hop]

/-- Where the name is new, nothing is replaced. -/
theorem perm_place {op : Operation} {ops : List Operation} (h : findNamed op.name ops = none) :
    (place op ops).Perm (op :: ops) := by
  induction ops with
  | nil => exact .refl _
  | cons a r ih =>
    rw [findNamed_cons] at h
    unfold place
    split
    · exact .refl _
    · rename_i hle
      split
      · rw [if_neg (fun ha => by simp [ha] at h)] at h
        exact ((ih h).cons a).trans (.swap op a r)
      · rename_i hge
        rw [if_pos (name_eq_of_not_lt hge hle)] at h
        cases h

/-! ### Meanings of names -/

namespace Registry

variable {r r' r'' : Registry} {name : String} {op : Operation}

theorem find?_insert (r : Registry) (op : Operation) (name : String) :
    (r.insert op).find? name = if op.name = name then some op else r.find? name :=
  findNamed_place name op r.ops

theorem name_of_find? (h : r.find? name = some op) : op.name = name := by
  simpa using List.find?_some h

theorem get_eq_ok_iff : r.get name = .ok op ↔ r.find? name = some op := by
  unfold get
  cases r.find? name <;> simp

theorem contains_eq_false_iff : r.contains name = false ↔ r.find? name = none := by
  simp [contains]

theorem contains_iff : r.contains name = true ↔ ∃ op, r.find? name = some op :=
  Option.isSome_iff_exists

/-- The operations that are listed are those that names have. -/
theorem mem_ops_iff : op ∈ r.ops ↔ r.find? op.name = some op := by
  constructor
  · intro h
    unfold find? findNamed
    obtain ⟨ops, hordered⟩ := r
    dsimp only at h ⊢
    induction ops with
    | nil => cases h
    | cons a ops ih =>
      obtain ⟨hhead, hrest⟩ := List.pairwise_cons.1 hordered
      rcases List.mem_cons.1 h with rfl | h
      · simp
      · have hlt : a.name < op.name := hhead op h
        have hne : a.name ≠ op.name := fun hname => String.lt_irrefl _ (hname ▸ hlt)
        rw [List.find?_cons, beq_eq_false_iff_ne.2 hne]
        exact ih hrest h
  · exact fun h => List.mem_of_find?_eq_some h

/-- An operation with a new name comes on top of the others. -/
theorem perm_insert (h : r.find? op.name = none) : (r.insert op).ops.Perm (op :: r.ops) :=
  perm_place h

/-! ### Registering -/

theorem register_of_new (h : r.find? op.name = none) : r.register op = .ok (r.insert op) := by
  rw [register, contains_eq_false_iff.2 h]
  rfl

theorem register_of_taken {op' : Operation} (h : r.find? op.name = some op') :
    r.register op = .error (.duplicateTag op.name) := by
  have htaken : r.contains op.name = true := by simp [contains, h]
  rw [register, htaken]
  rfl

theorem register_eq_ok_iff :
    r.register op = .ok r' ↔ r.find? op.name = none ∧ r' = r.insert op := by
  cases h : r.find? op.name with
  | none => simp [register_of_new h, eq_comm]
  | some op' => simp [register_of_taken h]

/-- A name that is taken is refused, and it is the only thing that is. -/
theorem register_eq_error_iff {e : TagError} :
    r.register op = .error e ↔ (∃ op', r.find? op.name = some op') ∧ e = .duplicateTag op.name := by
  cases h : r.find? op.name with
  | none => simp [register_of_new h]
  | some op' => simp [register_of_taken h, eq_comm]

/-! ### Registries that grow -/

/-- Every name of one registry means the same in the other. -/
def Within (r r' : Registry) : Prop := ∀ name op, r.find? name = some op → r'.find? name = some op

theorem Within.refl (r : Registry) : Within r r := fun _ _ h => h

theorem Within.trans (h : Within r r') (h' : Within r' r'') : Within r r'' :=
  fun name op hop => h' name op (h name op hop)

theorem within_insert (h : r.find? op.name = none) : Within r (r.insert op) := by
  intro name op' hop'
  have hne : op.name ≠ name := by
    rintro rfl
    rw [h] at hop'
    cases hop'
  rw [find?_insert, if_neg hne, hop']

/-! ### The vocabulary -/

theorem find?_foldl_insert_of_notMem {ops : List Operation}
    (h : name ∉ ops.map Operation.name) : (ops.foldl insert r).find? name = r.find? name := by
  induction ops generalizing r with
  | nil => rfl
  | cons a ops ih =>
    rw [List.map_cons, List.mem_cons, not_or] at h
    rw [List.foldl_cons, ih h.2, find?_insert, if_neg (Ne.symm h.1)]

/-- Operations with distinct names do not replace each other. -/
theorem find?_foldl_insert_of_mem {ops : List Operation}
    (hops : (ops.map Operation.name).Nodup) (h : op ∈ ops) :
    (ops.foldl insert r).find? op.name = some op := by
  induction ops generalizing r with
  | nil => cases h
  | cons a ops ih =>
    obtain ⟨hhead, hrest⟩ := List.nodup_cons.1 hops
    rw [List.foldl_cons]
    rcases List.mem_cons.1 h with rfl | h
    · rw [find?_foldl_insert_of_notMem hhead, find?_insert, if_pos rfl]
    · exact ih hrest h

/-- Every operation of the vocabulary is found by its name. -/
theorem find?_standard (h : op ∈ vocabulary) : standard.find? op.name = some op :=
  find?_foldl_insert_of_mem (by decide) h

end Registry

end Tag

end JellyViews
