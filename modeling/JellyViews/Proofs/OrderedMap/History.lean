/-
**Maps and their histories.**

A map is what a history of edits has made of it.  Only two things can happen to a key: a value is
written to it, or it is removed.  The events of a history tell all about the map: a key has the
value that was written to it last, unless it was removed after that, and it stands where it was
written first after it was removed for the last time.

Main definitions:

* `OrderedMap.Edit`, `OrderedMap.Edit.run` — what can be done with a map, and the answer to it;
* `OrderedMap.after` — the map that a history leaves;
* `OrderedMap.Event`, `OrderedMap.events` — what a history does to the keys;
* `OrderedMap.Recent`, `OrderedMap.Enters` — the value of a key, and its place, by the events alone.

Main results:

* `OrderedMap.replay_events` — **a map is known by the events of its history**;
* `OrderedMap.get?_replay_iff`, `OrderedMap.pairwise_keys_replay` — its values and its order;
* `OrderedMap.after_in_order` — **the law of histories**.
-/

import Mathlib.Data.List.Induction
import JellyViews.Proofs.OrderedMap

set_option relaxedAutoImplicit false
set_option autoImplicit false

namespace JellyViews

namespace OrderedMap

variable {κ ν : Type}

/-! ### Edits -/

/-- What can be done with a map. -/
inductive Edit (κ ν : Type) where
  /-- Gives a key a value; the answer is the value that it had. -/
  | exchange (k : κ) (v : ν)
  /-- Gives a key a value, without an answer. -/
  | insert (k : κ) (v : ν)
  | insertIfSome (k : κ) (v : Option ν)
  /-- Removes a key; the answer is the value that it had. -/
  | extract (k : κ)
  | merge (top : OrderedMap κ ν)
  /-- Starts over with the map of a list of pairs. -/
  | collect (es : List (κ × ν))

/-! ### Events -/

/-- What can happen to a key. -/
inductive Event (κ ν : Type) where
  | written (k : κ) (v : ν)
  | removed (k : κ)

/-- The key to which it happens. -/
def Event.key : Event κ ν → κ
  | written k _ => k
  | removed k => k

/-- The writes of a list of pairs, in order. -/
def writes (es : List (κ × ν)) : List (Event κ ν) := es.map fun e => .written e.1 e.2

/-- All events up to the end of an edit, if `past` happened before it. -/
def Edit.record (past : List (Event κ ν)) : Edit κ ν → List (Event κ ν)
  | exchange k v => past ++ [.written k v]
  | insert k v => past ++ [.written k v]
  | insertIfSome k v => past ++ (v.map (Event.written k)).toList
  | extract k => past ++ [.removed k]
  | merge top => past ++ writes top.entries
  | collect es => writes es

/-- The events of a history, the first one first. -/
def events (history : List (Edit κ ν)) : List (Event κ ν) := history.foldl Edit.record []

/-- All events behind this position are of this kind. -/
def Behind (log : List (Event κ ν)) (i : Nat) (kind : Event κ ν → Prop) : Prop :=
  ∀ (j : Nat) (e : Event κ ν), i < j → log[j]? = some e → kind e

/-- The value was written to the key, and nothing has happened to the key since. -/
def Recent (log : List (Event κ ν)) (k : κ) (v : ν) : Prop :=
  ∃ i : Nat, log[i]? = some (.written k v) ∧ Behind log i fun e => e.key ≠ k

/-- Some write to the key was not undone. -/
def Present (log : List (Event κ ν)) (k : κ) : Prop :=
  ∃ (i : Nat) (v : ν), log[i]? = some (.written k v) ∧ Behind log i fun e => e ≠ .removed k

/-- The event at this position is the first write to the key since the key was removed for the last
time. -/
structure Enters (log : List (Event κ ν)) (k : κ) (i : Nat) : Prop where
  written : ∃ v, log[i]? = some (.written k v)
  kept : Behind log i fun e => e ≠ .removed k
  /-- Every earlier write to the key was undone. -/
  undone : ∀ (j : Nat) (v : ν), j < i → log[j]? = some (.written k v) →
    ∃ l, j < l ∧ l < i ∧ log[l]? = some (.removed k)

/-! ### One more event -/

section

variable {log : List (Event κ ν)} {e : Event κ ν} {k : κ} {v : ν} {i : Nat}

theorem getElem?_concat_eq_some_iff {α : Type} {xs : List α} {a b : α} :
    (xs ++ [a])[i]? = some b ↔ xs[i]? = some b ∨ i = xs.length ∧ a = b := by
  rcases Nat.lt_trichotomy i xs.length with h | rfl | h
  · rw [List.getElem?_append_left h]
    simp [Nat.ne_of_lt h]
  · simp
  · have hshort : (xs ++ [a]).length ≤ i := by
      rw [List.length_append, List.length_singleton]
      exact h
    rw [List.getElem?_eq_none hshort, List.getElem?_eq_none (Nat.le_of_lt h)]
    simp [Nat.ne_of_gt h]

theorem lt_length_of_getElem? {α : Type} {xs : List α} {a : α} (h : xs[i]? = some a) :
    i < xs.length := (List.getElem?_eq_some_iff.1 h).1

theorem behind_concat_iff {kind : Event κ ν → Prop} (h : i < log.length) :
    Behind (log ++ [e]) i kind ↔ kind e ∧ Behind log i kind := by
  constructor
  · intro hall
    refine ⟨hall log.length e h (getElem?_concat_eq_some_iff.2 (.inr ⟨rfl, rfl⟩)), ?_⟩
    exact fun j e' hj he' => hall j e' hj (getElem?_concat_eq_some_iff.2 (.inl he'))
  · rintro ⟨he, hall⟩ j e' hj he'
    rcases getElem?_concat_eq_some_iff.1 he' with he' | ⟨-, rfl⟩
    · exact hall j e' hj he'
    · exact he

/-- Nothing comes behind the end. -/
theorem behind_length (log : List (Event κ ν)) (e : Event κ ν) (kind : Event κ ν → Prop) :
    Behind (log ++ [e]) log.length kind := by
  intro j e' hj he'
  have hlt := lt_length_of_getElem? he'
  rw [List.length_append, List.length_singleton] at hlt
  omega

theorem recent_concat_iff :
    Recent (log ++ [e]) k v ↔ e = .written k v ∨ e.key ≠ k ∧ Recent log k v := by
  constructor
  · rintro ⟨i, hi, hbehind⟩
    rcases getElem?_concat_eq_some_iff.1 hi with hi | ⟨-, rfl⟩
    · obtain ⟨he, hbehind⟩ := (behind_concat_iff (lt_length_of_getElem? hi)).1 hbehind
      exact .inr ⟨he, i, hi, hbehind⟩
    · exact .inl rfl
  · rintro (rfl | ⟨he, i, hi, hbehind⟩)
    · exact ⟨log.length, getElem?_concat_eq_some_iff.2 (.inr ⟨rfl, rfl⟩), behind_length _ _ _⟩
    · exact ⟨i, getElem?_concat_eq_some_iff.2 (.inl hi),
        (behind_concat_iff (lt_length_of_getElem? hi)).2 ⟨he, hbehind⟩⟩

theorem present_concat_iff :
    Present (log ++ [e]) k ↔ (∃ v, e = .written k v) ∨ e ≠ .removed k ∧ Present log k := by
  constructor
  · rintro ⟨i, v, hi, hbehind⟩
    rcases getElem?_concat_eq_some_iff.1 hi with hi | ⟨-, rfl⟩
    · obtain ⟨he, hbehind⟩ := (behind_concat_iff (lt_length_of_getElem? hi)).1 hbehind
      exact .inr ⟨he, i, v, hi, hbehind⟩
    · exact .inl ⟨v, rfl⟩
  · rintro (⟨v, rfl⟩ | ⟨he, i, v, hi, hbehind⟩)
    · exact ⟨log.length, v, getElem?_concat_eq_some_iff.2 (.inr ⟨rfl, rfl⟩), behind_length _ _ _⟩
    · exact ⟨i, v, getElem?_concat_eq_some_iff.2 (.inl hi),
        (behind_concat_iff (lt_length_of_getElem? hi)).2 ⟨he, hbehind⟩⟩

/-- A key that is not there enters with the write, and other keys stay where they are unless they
are removed. -/
theorem enters_concat_iff :
    Enters (log ++ [e]) k i ↔
      e ≠ .removed k ∧ Enters log k i ∨
        i = log.length ∧ (∃ v, e = .written k v) ∧ ¬ Present log k := by
  have hold {j : Nat} {e' : Event κ ν} (h : j < log.length) :
      (log ++ [e])[j]? = some e' ↔ log[j]? = some e' := by
    rw [List.getElem?_append_left h]
  constructor
  · rintro ⟨⟨v, hi⟩, hkept, hundone⟩
    rcases getElem?_concat_eq_some_iff.1 hi with hi | ⟨rfl, rfl⟩
    · have hlt := lt_length_of_getElem? hi
      obtain ⟨he, hkept⟩ := (behind_concat_iff hlt).1 hkept
      refine .inl ⟨he, ⟨v, hi⟩, hkept, fun j w hj hw => ?_⟩
      obtain ⟨l, hjl, hli, hl⟩ := hundone j w hj ((hold (Nat.lt_trans hj hlt)).2 hw)
      exact ⟨l, hjl, hli, (hold (Nat.lt_trans hli hlt)).1 hl⟩
    · refine .inr ⟨rfl, ⟨v, rfl⟩, ?_⟩
      rintro ⟨j, w, hw, hbehind⟩
      have hj := lt_length_of_getElem? hw
      obtain ⟨l, hjl, hlt, hl⟩ := hundone j w hj ((hold hj).2 hw)
      exact hbehind l _ hjl ((hold hlt).1 hl) rfl
  · rintro (⟨he, ⟨v, hi⟩, hkept, hundone⟩ | ⟨rfl, ⟨v, rfl⟩, hgone⟩)
    · have hlt := lt_length_of_getElem? hi
      refine ⟨⟨v, (hold hlt).2 hi⟩, (behind_concat_iff hlt).2 ⟨he, hkept⟩, fun j w hj hw => ?_⟩
      obtain ⟨l, hjl, hli, hl⟩ := hundone j w hj ((hold (Nat.lt_trans hj hlt)).1 hw)
      exact ⟨l, hjl, hli, (hold (Nat.lt_trans hli hlt)).2 hl⟩
    · refine ⟨⟨v, getElem?_concat_eq_some_iff.2 (.inr ⟨rfl, rfl⟩)⟩, behind_length _ _ _,
        fun j w hj hw => ?_⟩
      -- a write that was not undone would leave the key present
      by_contra hnone
      refine hgone ⟨j, w, (hold hj).1 hw, fun l e' hjl he' => ?_⟩
      rintro rfl
      have hlt := lt_length_of_getElem? he'
      exact hnone ⟨l, hjl, hlt, (hold hlt).2 he'⟩

theorem Enters.lt_length (h : Enters log k i) : i < log.length :=
  h.written.elim fun _ => lt_length_of_getElem?

/-- A key enters at one position only. -/
theorem Enters.unique {j : Nat} (h : Enters log k i) (h' : Enters log k j) : i = j := by
  have hnot {i j : Nat} (h : Enters log k i) (h' : Enters log k j) : ¬ i < j := by
    intro hlt
    obtain ⟨v, hv⟩ := h.written
    obtain ⟨l, hil, -, hl⟩ := h'.undone i v hlt hv
    exact h.kept l _ hil hl rfl
  have hle := hnot h h'
  have hge := hnot h' h
  omega

end

/-- Exactly the keys enter that are present. -/
theorem present_iff {log : List (Event κ ν)} {k : κ} : Present log k ↔ ∃ i, Enters log k i := by
  induction log using List.reverseRecOn with
  | nil =>
    constructor
    · rintro ⟨i, v, hi, -⟩
      cases hi
    · rintro ⟨i, h⟩
      exact absurd h.lt_length (Nat.not_lt_zero i)
  | append_singleton log e ih =>
    constructor
    · intro h
      rcases present_concat_iff.1 h with he | ⟨he, hpresent⟩
      · by_cases hpresent : Present log k
        · obtain ⟨i, hi⟩ := ih.1 hpresent
          obtain ⟨v, rfl⟩ := he
          exact ⟨i, enters_concat_iff.2 (.inl ⟨nofun, hi⟩)⟩
        · exact ⟨log.length, enters_concat_iff.2 (.inr ⟨rfl, he, hpresent⟩)⟩
      · obtain ⟨i, hi⟩ := ih.1 hpresent
        exact ⟨i, enters_concat_iff.2 (.inl ⟨he, hi⟩)⟩
    · rintro ⟨i, hi⟩
      rcases enters_concat_iff.1 hi with ⟨he, hi⟩ | ⟨-, he, -⟩
      · exact present_concat_iff.2 (.inr ⟨he, ih.2 ⟨i, hi⟩⟩)
      · exact present_concat_iff.2 (.inl he)

/-! ### Replaying the events -/

variable [DecidableEq κ]

/-- What an event makes of a map. -/
def Event.apply (m : OrderedMap κ ν) : Event κ ν → OrderedMap κ ν
  | written k v => m.insert k v
  | removed k => m.erase k

/-- The map that the events lead to. -/
def replay (log : List (Event κ ν)) : OrderedMap κ ν := log.foldl Event.apply ∅

theorem replay_append (log log' : List (Event κ ν)) :
    replay (log ++ log') = log'.foldl Event.apply (replay log) := List.foldl_append

theorem foldl_apply_writes (es : List (κ × ν)) (m : OrderedMap κ ν) :
    (writes es).foldl Event.apply m = m.insertAll es := List.foldl_map

/-- The values are those that were written last. -/
theorem get?_replay_iff {log : List (Event κ ν)} {k : κ} {v : ν} :
    (replay log).get? k = some v ↔ Recent log k v := by
  induction log using List.reverseRecOn with
  | nil =>
    constructor
    · intro h
      cases h
    · rintro ⟨i, hi, -⟩
      cases hi
  | append_singleton log e ih =>
    rw [recent_concat_iff, ← ih, replay_append]
    cases e with
    | written a w =>
      rw [List.foldl_cons, List.foldl_nil, Event.apply, get?_insert]
      by_cases ha : a = k
      · simp [ha, Event.key]
      · simp [ha, Event.key]
    | removed a =>
      rw [List.foldl_cons, List.foldl_nil, Event.apply, get?_erase]
      by_cases ha : a = k
      · simp [ha, Event.key]
      · simp [ha, Event.key]

/-- The keys are those that are present. -/
theorem mem_keys_replay_iff {log : List (Event κ ν)} {k : κ} :
    k ∈ (replay log).keys ↔ Present log k := by
  induction log using List.reverseRecOn with
  | nil =>
    constructor
    · intro h
      cases h
    · rintro ⟨i, v, hi, -⟩
      cases hi
  | append_singleton log e ih =>
    rw [present_concat_iff, ← ih, replay_append]
    cases e with
    | written a w =>
      have hkey : (∃ v, Event.written a w = .written k v) ↔ k = a := by
        simp [eq_comm]
      rw [List.foldl_cons, List.foldl_nil, Event.apply, keys_insert, hkey]
      by_cases ha : a ∈ (replay log).keys
      · rw [if_pos ha]
        constructor
        · exact fun h => .inr ⟨nofun, h⟩
        · rintro (rfl | ⟨-, h⟩)
          · exact ha
          · exact h
      · rw [if_neg ha, List.mem_append, List.mem_singleton, or_comm]
        simp
    | removed a =>
      have hother : (Event.removed a : Event κ ν) ≠ .removed k ↔ k ≠ a := by
        rw [Ne, Event.removed.injEq, eq_comm]
      rw [List.foldl_cons, List.foldl_nil, Event.apply, keys_erase, List.mem_filter, hother]
      simp [and_comm]

/-- A key that enters earlier comes first. -/
theorem pairwise_keys_replay (log : List (Event κ ν)) :
    (replay log).keys.Pairwise fun a b => ∀ i j, Enters log a i → Enters log b j → i < j := by
  induction log using List.reverseRecOn with
  | nil => exact .nil
  | append_singleton log e ih =>
    -- keys that were there stay where they were
    have hstays {a : κ} {i : Nat} (ha : a ∈ (replay log).keys) (h : Enters (log ++ [e]) a i) :
        Enters log a i := by
      rcases enters_concat_iff.1 h with ⟨-, h⟩ | ⟨-, -, hgone⟩
      · exact h
      · exact absurd (mem_keys_replay_iff.1 ha) hgone
    have hold : (replay log).keys.Pairwise fun a b =>
        ∀ i j, Enters (log ++ [e]) a i → Enters (log ++ [e]) b j → i < j :=
      ih.imp_of_mem fun ha hb h i j hi hj => h i j (hstays ha hi) (hstays hb hj)
    rw [replay_append]
    cases e with
    | written k v =>
      rw [List.foldl_cons, List.foldl_nil, Event.apply, keys_insert]
      split
      · exact hold
      · rename_i hnew
        refine List.pairwise_append.2
          ⟨hold, List.pairwise_singleton _ _, fun a ha b hb i j hi hj => ?_⟩
        obtain rfl := List.mem_singleton.1 hb
        rcases enters_concat_iff.1 hj with ⟨-, hj⟩ | ⟨rfl, -, -⟩
        · exact absurd (mem_keys_replay_iff.2 (present_iff.2 ⟨j, hj⟩)) hnew
        · exact (hstays ha hi).lt_length
    | removed k =>
      rw [List.foldl_cons, List.foldl_nil, Event.apply, keys_erase]
      exact hold.filter _

/-! ### Histories -/

/-- The answer of an edit, if it has one, and the map that it leaves. -/
def Edit.run (m : OrderedMap κ ν) : Edit κ ν → Option ν × OrderedMap κ ν
  | exchange k v => m.exchange k v
  | insert k v => (none, m.insert k v)
  | insertIfSome k v => (none, m.insertIfSome k v)
  | extract k => m.extract k
  | merge top => (none, m.merge top)
  | collect es => (none, ofList es)

/-- The map that a history leaves, from the empty map on. -/
def after (history : List (Edit κ ν)) : OrderedMap κ ν :=
  history.foldl (fun m edit => (edit.run m).2) ∅

/-- One edit is known by its events. -/
theorem replay_record (past : List (Event κ ν)) (edit : Edit κ ν) :
    replay (edit.record past) = (edit.run (replay past)).2 := by
  cases edit with
  | exchange k v => rw [Edit.record, replay_append, Edit.run, exchange_eq]; rfl
  | insert k v => exact replay_append past _
  | insertIfSome k v =>
    rw [Edit.record, replay_append, Edit.run]
    cases v <;> rfl
  | extract k => rw [Edit.record, replay_append, Edit.run, extract_eq]; rfl
  | merge top => rw [Edit.record, replay_append, foldl_apply_writes]; rfl
  | collect es => exact foldl_apply_writes es ∅

/-- **A map is known by the events of its history.** -/
theorem replay_events (history : List (Edit κ ν)) : replay (events history) = after history := by
  induction history using List.reverseRecOn with
  | nil => rfl
  | append_singleton history edit ih =>
    rw [events, after, List.foldl_append, List.foldl_append]
    change replay (edit.record (events history)) = (edit.run (after history)).2
    rw [replay_record, ih]

/-- **The law of histories.**  No key comes twice; a key has the value that was written to it last,
and none if it was removed after that; the answer to a write and to a removal is the value that they
replace; and the keys come in the order of the first write since the last removal.  So a key that is
there stays where it is when it is written to, and so do the other keys when one is removed. -/
theorem after_in_order (history : List (Edit κ ν)) :
    let m := after history
    let log := events history
    (m.entries.map Prod.fst).Nodup ∧
    (∀ k v, m.get? k = some v ↔ Recent log k v) ∧
    (∀ k v, (k, v) ∈ m.entries ↔ Recent log k v) ∧
    (∀ k v old, ((Edit.exchange k v).run m).1 = some old ↔ Recent log k old) ∧
    (∀ k old, ((Edit.extract k).run m).1 = some old ↔ Recent log k old) ∧
    (∀ k, k ∈ m.keys ↔ ∃ i, Enters log k i) ∧
    (m.keys.Pairwise fun a b => ∀ i j, Enters log a i → Enters log b j → i < j) ∧
    (∀ k v, k ∈ m.keys → ((Edit.exchange k v).run m).2.keys = m.keys) ∧
    ∀ k, ((Edit.extract k).run m).2.keys = m.keys.filter fun a => decide (a ≠ k) := by
  intro m log
  have hm : replay log = m := replay_events history
  have hvalues (k : κ) (v : ν) : m.get? k = some v ↔ Recent log k v := hm ▸ get?_replay_iff
  refine ⟨m.nodup, hvalues, fun k v => mem_entries_iff.trans (hvalues k v), fun k v old => ?_,
    fun k old => ?_, fun k => ?_, hm ▸ pairwise_keys_replay log, fun k v hk => ?_, fun k => ?_⟩
  · rw [Edit.run, exchange_eq]
    exact hvalues k old
  · rw [Edit.run, extract_eq]
    exact hvalues k old
  · rw [← hm, mem_keys_replay_iff, present_iff]
  · rw [Edit.run, exchange_eq, keys_insert, if_pos hk]
  · rw [Edit.run, extract_eq, keys_erase]

/-- A history with a key that is removed and comes back. -/
def turns : List (Edit String String) :=
  [.collect [("a", "1"), ("b", "2"), ("c", "3")], .extract "a", .insert "b" "4",
    .merge (ofList [("d", "5"), ("a", "6")])]

/-- The key comes back at the end; one that is only written to stays, and answers what was written
to it last. -/
theorem after_in_order_of_turns :
    (after turns).keys = ["b", "c", "d", "a"] ∧
      ((Edit.exchange "b" "7").run (after turns)).1 = some "4" ∧
      ((Edit.exchange "b" "7").run (after turns)).2.keys = (after turns).keys := by
  obtain ⟨-, hvalues, -, hexchanged, -, -, -, hkept, -⟩ := after_in_order turns
  refine ⟨by decide, ?_, hkept "b" "7" (by decide)⟩
  exact (hexchanged "b" "7" "4").2 ((hvalues "b" "4").1 (by decide))

end OrderedMap

end JellyViews
