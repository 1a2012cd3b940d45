/-
**Finite maps that remember the order of insertion.**

Replacing the value of a key keeps the key's place, a new key goes to the end, and removing a key
leaves the order of the others alone.  Element attributes and the entries of a file tree are such
maps.

Main definitions:

* `OrderedMap` — a list of pairs with distinct keys;
* `OrderedMap.insert`, `OrderedMap.erase`, `OrderedMap.ofList` — building a map;
* `OrderedMap.exchange`, `OrderedMap.extract` — inserting and erasing with the old value for an
  answer;
* `OrderedMap.merge`, `OrderedMap.fill` — one map on top of another, or below it;
* `OrderedMap.sortBy` — the map in the order of its keys;
* `OrderedMap.get?`, `OrderedMap.keys` — the two views that the small lemmas are stated in.

Main results:

* `OrderedMap.get?_insert`, `OrderedMap.get?_erase` — what the operations do to the values;
* `OrderedMap.keys_insert`, `OrderedMap.keys_erase` — what they do to the order.
-/

set_option relaxedAutoImplicit false
set_option autoImplicit false

namespace JellyViews

variable {κ ν : Type} [DecidableEq κ]

/-! ### Lists of pairs -/

namespace Entries

/-- Gives the key a value: in place if the key is there, at the end otherwise. -/
def put (k : κ) (v : ν) : List (κ × ν) → List (κ × ν)
  | [] => [(k, v)]
  | (a, b) :: r => if a = k then (k, v) :: r else (a, b) :: put k v r

/-- Like `put`, and tells which value the key had. -/
def exchange (k : κ) (v : ν) : List (κ × ν) → Option ν × List (κ × ν)
  | [] => (none, [(k, v)])
  | (a, b) :: r =>
    if a = k then (some b, (k, v) :: r)
    else
      let (old, r) := exchange k v r
      (old, (a, b) :: r)

/-- Leaves out the key. -/
def drop (k : κ) (es : List (κ × ν)) : List (κ × ν) := es.filter fun e => decide (e.1 ≠ k)

/-- Takes the first pair of the key out, and tells its value. -/
def extract (k : κ) : List (κ × ν) → Option ν × List (κ × ν)
  | [] => (none, [])
  | (a, b) :: r =>
    if a = k then (some b, r)
    else
      let (old, r) := extract k r
      (old, (a, b) :: r)

/-- The value of the key. -/
def find (k : κ) : List (κ × ν) → Option ν
  | [] => none
  | (a, b) :: r => if a = k then some b else find k r

theorem keys_put (k : κ) (v : ν) (es : List (κ × ν)) :
    (put k v es).map Prod.fst =
      if k ∈ es.map Prod.fst then es.map Prod.fst else es.map Prod.fst ++ [k] := by
  induction es with
  | nil => simp [put]
  | cons e r ih =>
    by_cases h : e.1 = k
    · simp [put, h]
    · have h' : ¬ k = e.1 := fun hk => h hk.symm
      by_cases hr : k ∈ r.map Prod.fst
      · simp only [put, h, if_false, List.map_cons, ih, hr, if_true, List.mem_cons, h', or_true]
      · simp only [put, h, if_false, List.map_cons, ih, hr, List.mem_cons, h', or_self,
          List.cons_append]

theorem exchange_eq (k : κ) (v : ν) (es : List (κ × ν)) :
    exchange k v es = (find k es, put k v es) := by
  induction es with
  | nil => rfl
  | cons e r ih =>
    by_cases h : e.1 = k
    · simp [exchange, find, put, h]
    · simp [exchange, find, put, h, ih]

/-- If no key comes twice, the first pair is the only one. -/
theorem extract_eq {es : List (κ × ν)} (hes : (es.map Prod.fst).Nodup) (k : κ) :
    extract k es = (find k es, drop k es) := by
  induction es with
  | nil => rfl
  | cons e r ih =>
    obtain ⟨hnew, hr⟩ := List.nodup_cons.1 hes
    by_cases h : e.1 = k
    · have hdrop : drop k r = r := by
        refine List.filter_eq_self.2 fun a ha => decide_eq_true ?_
        rintro rfl
        exact hnew (h ▸ List.mem_map_of_mem ha)
      have hcons : drop k (e :: r) = drop k r := by simp [drop, h]
      simp [extract, find, h, hcons, hdrop]
    · have hcons : drop k (e :: r) = e :: drop k r := by simp [drop, h]
      simp [extract, find, h, hcons, ih hr]

theorem keys_drop (k : κ) (es : List (κ × ν)) :
    (drop k es).map Prod.fst = (es.map Prod.fst).filter fun a => decide (a ≠ k) := by
  simp [drop, List.filter_map, Function.comp_def]

theorem find_put (k : κ) (v : ν) (es : List (κ × ν)) (a : κ) :
    find a (put k v es) = if k = a then some v else find a es := by
  induction es with
  | nil => simp [put, find]
  | cons e r ih =>
    by_cases h : e.1 = k
    · subst h
      by_cases ha : e.1 = a <;> simp [put, find, ha]
    · simp only [put, h, if_false, find, ih]
      by_cases ha : e.1 = a
      · subst ha
        have h' : ¬ k = e.1 := fun hk => h hk.symm
        simp [h']
      · simp [ha]

theorem find_drop (k : κ) (es : List (κ × ν)) (a : κ) :
    find a (drop k es) = if k = a then none else find a es := by
  induction es with
  | nil => simp [drop, find]
  | cons e r ih =>
    have ih' : find a (List.filter (fun e => decide (e.1 ≠ k)) r) =
        if k = a then none else find a r := ih
    by_cases h : e.1 = k
    · have hd : drop k (e :: r) = drop k r := by simp [drop, h]
      rw [hd, ih]
      by_cases ha : k = a
      · simp [ha]
      · have : ¬ e.1 = a := by rw [h]; exact ha
        simp [ha, find, this]
    · have hd : drop k (e :: r) = e :: drop k r := by simp [drop, h]
      rw [hd]
      by_cases ha : e.1 = a
      · subst ha
        have h' : ¬ k = e.1 := fun hk => h hk.symm
        simp [find, h']
      · simp [find, ha, ih]

end Entries

/-! ### Maps -/

/-- A finite map in the order of insertion. -/
structure OrderedMap (κ ν : Type) where
  entries : List (κ × ν)
  nodup : (entries.map Prod.fst).Nodup

namespace OrderedMap

omit [DecidableEq κ] in
@[ext] theorem ext {m m' : OrderedMap κ ν} (h : m.entries = m'.entries) : m = m' := by
  cases m
  cases m'
  simp_all

instance [DecidableEq ν] : DecidableEq (OrderedMap κ ν) := fun m m' =>
  if h : m.entries = m'.entries then .isTrue (ext h)
  else .isFalse fun h' => h (by rw [h'])

/-- The map without keys. -/
def empty : OrderedMap κ ν := ⟨[], by simp⟩

instance : EmptyCollection (OrderedMap κ ν) := ⟨empty⟩

instance : Inhabited (OrderedMap κ ν) := ⟨empty⟩

/-- The keys, in order. -/
def keys (m : OrderedMap κ ν) : List κ := m.entries.map Prod.fst

/-- The number of keys. -/
def size (m : OrderedMap κ ν) : Nat := m.entries.length

/-- The value of a key. -/
def get? (m : OrderedMap κ ν) (k : κ) : Option ν := Entries.find k m.entries

/-- Whether the key has a value. -/
def contains (m : OrderedMap κ ν) (k : κ) : Bool := (m.get? k).isSome

/-- Gives the key a value: in place if it has one, at the end otherwise. -/
def insert (m : OrderedMap κ ν) (k : κ) (v : ν) : OrderedMap κ ν :=
  ⟨Entries.put k v m.entries, by
    rw [Entries.keys_put]
    split
    · exact m.nodup
    · rename_i h
      rw [List.nodup_append]
      refine ⟨m.nodup, by simp, ?_⟩
      intro a ha b hb hab
      simp only [List.mem_singleton] at hb
      subst hb
      subst hab
      exact h ha⟩

/-- The map without the key. -/
def erase (m : OrderedMap κ ν) (k : κ) : OrderedMap κ ν :=
  ⟨Entries.drop k m.entries, by
    rw [Entries.keys_drop]
    exact m.nodup.filter _⟩

/-- Gives the key a value, and tells which value it had. -/
def exchange (m : OrderedMap κ ν) (k : κ) (v : ν) : Option ν × OrderedMap κ ν :=
  ((Entries.exchange k v m.entries).1,
    ⟨(Entries.exchange k v m.entries).2, by
      rw [Entries.exchange_eq]
      exact (m.insert k v).nodup⟩)

/-- Takes the key out, and tells which value it had. -/
def extract (m : OrderedMap κ ν) (k : κ) : Option ν × OrderedMap κ ν :=
  ((Entries.extract k m.entries).1,
    ⟨(Entries.extract k m.entries).2, by
      rw [Entries.extract_eq m.nodup]
      exact (m.erase k).nodup⟩)

/-- Inserts the pairs one after the other. -/
def insertAll (m : OrderedMap κ ν) (es : List (κ × ν)) : OrderedMap κ ν :=
  es.foldl (fun acc e => acc.insert e.1 e.2) m

/-- The map of a list of pairs; a repeated key keeps its first place and its last value. -/
def ofList (es : List (κ × ν)) : OrderedMap κ ν := empty.insertAll es

/-- The map `m` with the values of `top` over its own: keys of `m` keep their places, and the other
keys of `top` follow in their order. -/
def merge (m top : OrderedMap κ ν) : OrderedMap κ ν := m.insertAll top.entries

/-- Gives the key a value if there is one. -/
def insertIfSome (m : OrderedMap κ ν) (k : κ) : Option ν → OrderedMap κ ν
  | some v => m.insert k v
  | none => m

/-- Adds those pairs of `defaults` whose key has no value yet. -/
def fill (m defaults : OrderedMap κ ν) : OrderedMap κ ν :=
  defaults.entries.foldl (fun acc e => if acc.contains e.1 then acc else acc.insert e.1 e.2) m

/-- The map with its keys in the order of `le`. -/
def sortBy (le : κ → κ → Bool) (m : OrderedMap κ ν) : OrderedMap κ ν :=
  ⟨m.entries.mergeSort fun a b => le a.1 b.1,
    (((List.mergeSort_perm m.entries _).map Prod.fst).nodup_iff).2 m.nodup⟩

/-! ### The two views -/

omit [DecidableEq κ] in
@[simp] theorem entries_empty : (empty : OrderedMap κ ν).entries = [] := rfl

omit [DecidableEq κ] in
@[simp] theorem keys_empty : (empty : OrderedMap κ ν).keys = [] := rfl

@[simp] theorem get?_empty (k : κ) : (empty : OrderedMap κ ν).get? k = none := rfl

theorem get?_insert (m : OrderedMap κ ν) (k a : κ) (v : ν) :
    (m.insert k v).get? a = if k = a then some v else m.get? a :=
  Entries.find_put k v m.entries a

@[simp] theorem get?_insert_self (m : OrderedMap κ ν) (k : κ) (v : ν) :
    (m.insert k v).get? k = some v := by
  simp [get?_insert]

theorem get?_erase (m : OrderedMap κ ν) (k a : κ) :
    (m.erase k).get? a = if k = a then none else m.get? a :=
  Entries.find_drop k m.entries a

@[simp] theorem exchange_eq (m : OrderedMap κ ν) (k : κ) (v : ν) :
    m.exchange k v = (m.get? k, m.insert k v) := by
  simp only [exchange, Entries.exchange_eq]
  rfl

@[simp] theorem extract_eq (m : OrderedMap κ ν) (k : κ) :
    m.extract k = (m.get? k, m.erase k) := by
  simp only [extract, Entries.extract_eq m.nodup]
  rfl

theorem keys_insert (m : OrderedMap κ ν) (k : κ) (v : ν) :
    (m.insert k v).keys = if k ∈ m.keys then m.keys else m.keys ++ [k] :=
  Entries.keys_put k v m.entries

theorem keys_erase (m : OrderedMap κ ν) (k : κ) :
    (m.erase k).keys = m.keys.filter fun a => decide (a ≠ k) :=
  Entries.keys_drop k m.entries

omit [DecidableEq κ] in
theorem keys_nodup (m : OrderedMap κ ν) : m.keys.Nodup := m.nodup

end OrderedMap

end JellyViews
