/-
**Registries with a history.**

A registry is filled by registering single operations and whole lists of definitions, and either may
be refused.  A list is refused at its first definition that is not well-formed or whose name is
taken, by the registry or by a definition before it; what comes before this definition stays.  So a
registry never loses or replaces an operation, whatever is tried on it: a name that has a meaning
keeps it, the names of the vocabulary among them.

Main definitions:

* `Extension.Admissible` — definitions that can all be added to a registry;
* `Extension.Refused` — a definition that cannot be added behind others;
* `Extension.Step`, `Extension.after` — attempts to register, and the registry behind a history of
  them;
* `Tag.Registry.Consistent` — what is true of registries at any time;
* `Tag.Registry.Registers`, `Extension.Declares` — what an attempt comes to.

Main results:

* `Extension.admissible_or_refused` — **definitions are added up to the first that is refused**;
* `Extension.declare_eq_ok_iff` — all of them are added exactly if they are admissible;
* `Extension.within_after` — **names keep their meanings** along every history;
* `Extension.registry_of_history` — the laws of a registry with any history;
* `Extension.registry_of_history_clashing` — a history of the vocabulary with two refusals.
-/

import JellyViews.Extension.File
import JellyViews.Proofs.Extension.Accepting
import JellyViews.Proofs.Tag.Registering

set_option relaxedAutoImplicit false
set_option autoImplicit false

namespace JellyViews

/-! ### Definitions and their operations -/

namespace Extension

open Tag

/-- The operations of those definitions that are well-formed. -/
def operationsOf (ds : List Definition) : List Operation :=
  ds.filterMap fun d => d.operation.toOption

theorem operationsOf_cons {d : Definition} {op : Operation} (h : d.operation = .ok op)
    (ds : List Definition) : operationsOf (d :: ds) = op :: operationsOf ds := by
  simp [operationsOf, h, Except.toOption]

theorem mem_operationsOf {ds : List Definition} {op : Operation} :
    op ∈ operationsOf ds ↔ ∃ d ∈ ds, d.operation = .ok op := by
  unfold operationsOf
  rw [List.mem_filterMap]
  refine exists_congr fun d => and_congr_right fun _ => ?_
  cases d.operation <;> simp [Except.toOption]

/-! ### Lists of definitions -/

variable {r : Registry} {d : Definition} {ds front rest : List Definition} {e : ExtensionError}

/-- The definitions can all be added: each is well-formed, and their names are new and distinct. -/
structure Admissible (r : Registry) (ds : List Definition) : Prop where
  valid : ∀ d ∈ ds, ∃ op, d.operation = .ok op
  fresh : ∀ d ∈ ds, r.contains d.name = false
  distinct : (ds.map Definition.name).Nodup

/-- The definition cannot be added behind `front`: there is something wrong with it, or its name is
taken by then. -/
inductive Refused (r : Registry) (front : List Definition) (d : Definition) : ExtensionError → Prop
  | invalid (defect : Defect) (h : d.operation = .error defect) :
    Refused r front d (.invalid d.name defect)
  | taken (h : r.contains d.name = true ∨ d.name ∈ front.map Definition.name) :
    Refused r front d (.rejected (.duplicateTag d.name))

theorem admissible_nil (r : Registry) : Admissible r [] :=
  ⟨by simp, by simp, by simp⟩

/-- Definitions are admissible if the first can be added, and the others on top of it. -/
theorem admissible_cons {op : Operation} (h : d.operation = .ok op) :
    Admissible r (d :: ds) ↔ r.find? d.name = none ∧ Admissible (r.insert op) ds := by
  have hname : op.name = d.name := (Definition.of_operation h).1
  constructor
  · intro ⟨hvalid, hfresh, hdistinct⟩
    obtain ⟨hhead, hrest⟩ := List.nodup_cons.1 hdistinct
    refine ⟨Registry.contains_eq_false_iff.1 (hfresh d List.mem_cons_self),
      fun d' hd' => hvalid d' (List.mem_cons_of_mem _ hd'), fun d' hd' => ?_, hrest⟩
    have hne : op.name ≠ d'.name := fun hop =>
      hhead (List.mem_map.2 ⟨d', hd', hop.symm.trans hname⟩)
    rw [Registry.contains_eq_false_iff, Registry.find?_insert, if_neg hne]
    exact Registry.contains_eq_false_iff.1 (hfresh d' (List.mem_cons_of_mem _ hd'))
  · rintro ⟨hnew, hvalid, hfresh, hdistinct⟩
    -- what is fresh on top of the first definition has another name
    have hfresh' : ∀ d' ∈ ds, op.name ≠ d'.name ∧ r.find? d'.name = none := fun d' hd' => by
      have hfind := Registry.contains_eq_false_iff.1 (hfresh d' hd')
      rw [Registry.find?_insert] at hfind
      split at hfind
      · cases hfind
      · rename_i hne
        exact ⟨hne, hfind⟩
    refine ⟨?_, ?_, List.nodup_cons.2 ⟨fun hmem => ?_, hdistinct⟩⟩
    · rintro d' (_ | ⟨_, hd'⟩)
      · exact ⟨op, h⟩
      · exact hvalid d' hd'
    · rintro d' (_ | ⟨_, hd'⟩)
      · exact Registry.contains_eq_false_iff.2 hnew
      · exact Registry.contains_eq_false_iff.2 (hfresh' d' hd').2
    · obtain ⟨d', hd', hd⟩ := List.mem_map.1 hmem
      exact (hfresh' d' hd').1 (hname.trans hd.symm)

theorem registerOne_of_error {defect : Defect} (h : d.operation = .error defect) :
    registerOne r d = .error (.invalid d.name defect) := by
  rw [registerOne, h]

theorem registerOne_of_taken {op : Operation} (h : d.operation = .ok op)
    (htaken : r.contains d.name = true) :
    registerOne r d = .error (.rejected (.duplicateTag d.name)) := by
  have hname : op.name = d.name := (Definition.of_operation h).1
  rw [← hname, Registry.contains_iff] at htaken
  rw [registerOne, h]
  dsimp only
  rw [Registry.register_eq_error_iff.2 ⟨htaken, rfl⟩, hname]

theorem registerOne_of_ok {op : Operation} (h : d.operation = .ok op)
    (hnew : r.find? d.name = none) : registerOne r d = .ok (r.insert op) := by
  have hname : op.name = d.name := (Definition.of_operation h).1
  rw [registerOne, h]
  dsimp only
  rw [Registry.register_of_new (hname ▸ hnew)]

theorem registerOne_eq_ok {r' : Registry} (h : registerOne r d = .ok r') :
    ∃ op, d.operation = .ok op ∧ r.find? d.name = none ∧ r' = r.insert op := by
  cases hd : d.operation with
  | error defect =>
    rw [registerOne_of_error hd] at h
    cases h
  | ok op =>
    cases htaken : r.contains d.name with
    | true =>
      rw [registerOne_of_taken hd htaken] at h
      cases h
    | false =>
      have hnew := Registry.contains_eq_false_iff.1 htaken
      rw [registerOne_of_ok hd hnew] at h
      exact ⟨op, rfl, hnew, (Except.ok.inj h).symm⟩

theorem registerAll_of_error (h : registerOne r d = .error e) (ds : List Definition) :
    registerAll r (d :: ds) = (r, some e) := by
  rw [registerAll, h]

theorem registerAll_of_ok {r' : Registry} (h : registerOne r d = .ok r') (ds : List Definition) :
    registerAll r (d :: ds) = registerAll r' ds := by
  rw [registerAll, h]

/-- **Definitions are added up to the first that is refused.** -/
theorem admissible_or_refused (r : Registry) (ds : List Definition) :
    (Admissible r ds ∧ (registerAll r ds).2 = none) ∨
      ∃ front d rest e, ds = front ++ d :: rest ∧ Admissible r front ∧ Refused r front d e ∧
        registerAll r ds = ((registerAll r front).1, some e) := by
  induction ds generalizing r with
  | nil => exact .inl ⟨admissible_nil r, rfl⟩
  | cons d ds ih =>
    cases hd : d.operation with
    | error defect =>
      exact .inr ⟨[], d, ds, _, rfl, admissible_nil r, .invalid defect hd,
        registerAll_of_error (registerOne_of_error hd) ds⟩
    | ok op =>
      cases htaken : r.contains d.name with
      | true =>
        exact .inr ⟨[], d, ds, _, rfl, admissible_nil r, .taken (.inl htaken),
          registerAll_of_error (registerOne_of_taken hd htaken) ds⟩
      | false =>
        have hnew := Registry.contains_eq_false_iff.1 htaken
        have hstep := registerAll_of_ok (registerOne_of_ok hd hnew)
        rcases ih (r.insert op) with ⟨hall, hnone⟩ | ⟨front, d', rest, e, rfl, hfront, hd', hrun⟩
        · exact .inl ⟨(admissible_cons hd).2 ⟨hnew, hall⟩, (hstep ds).symm ▸ hnone⟩
        · refine .inr ⟨d :: front, d', rest, e, rfl, (admissible_cons hd).2 ⟨hnew, hfront⟩, ?_, ?_⟩
          · cases hd' with
            | invalid defect h => exact .invalid defect h
            | taken h =>
              refine .taken ?_
              rw [Registry.contains, Registry.find?_insert, (Definition.of_operation hd).1] at h
              by_cases hname : d.name = d'.name
              · exact .inr (by simp [hname])
              · rw [if_neg hname] at h
                exact h.imp_right (List.mem_cons_of_mem _)
          · rw [hstep, hrun, hstep]

/-- Definitions of which one is refused are not admissible. -/
theorem Refused.not_admissible (h : Refused r front d e) :
    ¬ Admissible r (front ++ d :: rest) := by
  intro ⟨hvalid, hfresh, hdistinct⟩
  have hd : d ∈ front ++ d :: rest := List.mem_append_right _ List.mem_cons_self
  cases h with
  | invalid defect h =>
    obtain ⟨op, hop⟩ := hvalid d hd
    rw [h] at hop
    cases hop
  | taken h =>
    rcases h with h | h
    · rw [hfresh d hd] at h
      cases h
    · rw [List.map_append, List.map_cons] at hdistinct
      exact (List.nodup_append.1 hdistinct).2.2 d.name h d.name List.mem_cons_self rfl

theorem registerAll_eq_none_iff : (registerAll r ds).2 = none ↔ Admissible r ds := by
  rcases admissible_or_refused r ds with ⟨hall, hnone⟩ | ⟨front, d, rest, e, rfl, -, hd, hrun⟩
  · exact iff_of_true hnone hall
  · rw [hrun]
    exact iff_of_false (by simp) hd.not_admissible

/-- Admissible definitions add their operations to the list. -/
theorem perm_registerAll (h : Admissible r ds) :
    (registerAll r ds).1.ops.Perm (r.ops ++ operationsOf ds) := by
  induction ds generalizing r with
  | nil => simp [registerAll, operationsOf]
  | cons d ds ih =>
    obtain ⟨op, hd⟩ := h.valid d List.mem_cons_self
    obtain ⟨hnew, hrest⟩ := (admissible_cons hd).1 h
    have hperm : (r.insert op).ops.Perm (op :: r.ops) :=
      Registry.perm_insert ((Definition.of_operation hd).1 ▸ hnew)
    rw [registerAll_of_ok (registerOne_of_ok hd hnew), operationsOf_cons hd]
    exact (ih hrest).trans ((hperm.append_right _).trans List.perm_middle.symm)

theorem within_registerAll (r : Registry) (ds : List Definition) :
    r.Within (registerAll r ds).1 := by
  induction ds generalizing r with
  | nil => exact .refl r
  | cons d ds ih =>
    cases hstep : registerOne r d with
    | error e =>
      rw [registerAll_of_error hstep]
      exact .refl r
    | ok r' =>
      obtain ⟨op, hd, hnew, rfl⟩ := registerOne_eq_ok hstep
      rw [registerAll_of_ok hstep]
      exact (Registry.within_insert ((Definition.of_operation hd).1 ▸ hnew)).trans (ih _)

theorem fst_declare (r : Registry) (ds : List Definition) :
    (declare r ds).1 = (registerAll r ds).1 := by
  unfold declare
  rcases registerAll r ds with ⟨r', _ | e⟩ <;> rfl

theorem declare_eq_ok_iff {n : Nat} :
    (declare r ds).2 = .ok n ↔ n = ds.length ∧ Admissible r ds := by
  rw [← registerAll_eq_none_iff]
  unfold declare
  rcases registerAll r ds with ⟨r', _ | e⟩ <;> simp [eq_comm]

theorem declare_eq_error_iff : (declare r ds).2 = .error e ↔ (registerAll r ds).2 = some e := by
  unfold declare
  rcases registerAll r ds with ⟨r', _ | e⟩ <;> simp

/-- What adding definitions comes to: all are added, and counted, exactly if they are admissible;
otherwise those before the first that is refused are. -/
structure Declares (r : Registry) (ds : List Definition) : Prop where
  accepted : ∀ n, (declare r ds).2 = .ok n ↔ n = ds.length ∧ Admissible r ds
  added : Admissible r ds → (declare r ds).1.ops.Perm (r.ops ++ operationsOf ds) ∧
    ∀ d ∈ ds, ∃ op, d.operation = .ok op ∧ (declare r ds).1.get d.name = .ok op
  refused : ∀ e, (declare r ds).2 = .error e → ∃ front d rest, ds = front ++ d :: rest ∧
    Admissible r front ∧ Refused r front d e ∧
    (declare r ds).1.ops.Perm (r.ops ++ operationsOf front)

theorem declares (r : Registry) (ds : List Definition) : Declares r ds where
  accepted n := declare_eq_ok_iff
  added h := by
    have hperm := perm_registerAll h
    rw [fst_declare]
    refine ⟨hperm, fun d hd => ?_⟩
    obtain ⟨op, hop⟩ := h.valid d hd
    have hmem : op ∈ (registerAll r ds).1.ops :=
      hperm.symm.subset (List.mem_append_right _ (mem_operationsOf.2 ⟨d, hd, hop⟩))
    refine ⟨op, hop, Registry.get_eq_ok_iff.2 ?_⟩
    rw [← (Definition.of_operation hop).1]
    exact Registry.mem_ops_iff.1 hmem
  refused e he := by
    rw [declare_eq_error_iff] at he
    rw [fst_declare]
    rcases admissible_or_refused r ds with ⟨-, hnone⟩ | ⟨front, d, rest, e', rfl, hfront, hd, hrun⟩
    · rw [hnone] at he
      cases he
    · rw [hrun] at he ⊢
      obtain rfl : e' = e := by simpa using he
      exact ⟨front, d, rest, rfl, hfront, hd, perm_registerAll hfront⟩

end Extension

/-! ### Single operations -/

namespace Tag

namespace Registry

/-- What is true of registries at any time: a name has an operation of this name, and the operations
that names have are listed, each once, in the order of the names. -/
structure Consistent (r : Registry) : Prop where
  named : ∀ name op, r.get name = .ok op → op.name = name
  ascending : r.ops.Pairwise fun a b => a.name < b.name
  listed : ∀ op, op ∈ r.ops ↔ r.get op.name = .ok op

theorem consistent (r : Registry) : r.Consistent where
  named _ _ h := name_of_find? (get_eq_ok_iff.1 h)
  ascending := r.ordered
  listed _ := mem_ops_iff.trans get_eq_ok_iff.symm

end Registry

end Tag

/-! ### Histories -/

namespace Extension

open Tag

/-- An attempt to add to a registry. -/
inductive Step where
  /-- To register an operation. -/
  | register (op : Operation)
  /-- To add the operations of definitions. -/
  | declare (ds : List Definition)

/-- The registry behind an attempt, be it refused or not. -/
def Step.run (r : Registry) : Step → Registry
  | register op =>
    match r.register op with
    | .ok r' => r'
    | .error _ => r
  | declare ds => (Extension.declare r ds).1

/-- The registry behind a history of attempts. -/
def after (r : Registry) (history : List Step) : Registry := history.foldl Step.run r

theorem Step.run_register_of_error {r : Registry} {op : Operation} {e : TagError}
    (h : r.register op = .error e) : (Step.register op).run r = r := by
  rw [Step.run, h]

theorem Step.run_register_of_ok {r r' : Registry} {op : Operation} (h : r.register op = .ok r') :
    (Step.register op).run r = r' := by
  rw [Step.run, h]

/-- What registering an operation comes to: it is refused exactly if its name is taken, and then
nothing changes. -/
structure Registers (r : Registry) (op : Operation) : Prop where
  refused : (∃ e, r.register op = .error e) ↔ ∃ op', r.get op.name = .ok op'
  unchanged : ∀ e, r.register op = .error e →
    e = .duplicateTag op.name ∧ (Step.register op).run r = r
  added : ∀ r', r.register op = .ok r' →
    (Step.register op).run r = r' ∧ r'.ops.Perm (op :: r.ops)

theorem registers (r : Registry) (op : Operation) : Registers r op where
  refused := by
    simp only [Registry.register_eq_error_iff, Registry.get_eq_ok_iff]
    simp
  unchanged _ h := ⟨(Registry.register_eq_error_iff.1 h).2, Step.run_register_of_error h⟩
  added r' h := by
    obtain ⟨hnew, rfl⟩ := Registry.register_eq_ok_iff.1 h
    exact ⟨Step.run_register_of_ok h, Registry.perm_insert hnew⟩

/-- An attempt leaves the meanings of names alone. -/
theorem Step.within_run (r : Registry) (step : Step) : r.Within (step.run r) := by
  cases step with
  | register op =>
    cases h : r.register op with
    | error e =>
      rw [Step.run_register_of_error h]
      exact .refl r
    | ok r' =>
      obtain ⟨hnew, rfl⟩ := Registry.register_eq_ok_iff.1 h
      rw [Step.run_register_of_ok h]
      exact Registry.within_insert hnew
  | declare ds =>
    rw [Step.run, fst_declare]
    exact within_registerAll r ds

/-- **Names keep their meanings**, whatever is tried. -/
theorem within_after (r : Registry) (history : List Step) : r.Within (after r history) := by
  induction history generalizing r with
  | nil => exact .refl r
  | cons step history ih => exact (step.within_run r).trans (ih (step.run r))

/-- **The laws of a registry with any history.**  Its names have operations of these names, which
are listed in order; a name that has an operation keeps it, whatever is tried later, and no
operation of the vocabulary is ever replaced.  What the next attempt comes to is told by the names
and the definitions alone. -/
theorem registry_of_history (start : Registry) (history : List Step) :
    (after start history).Consistent ∧
      (∀ more name op, (after start history).get name = .ok op →
        (after start (history ++ more)).get name = .ok op) ∧
      (∀ op ∈ vocabulary, (after .standard history).get op.name = .ok op) ∧
      (∀ op, Registers (after start history) op) ∧
      ∀ ds, Declares (after start history) ds := by
  refine ⟨Registry.consistent _, fun more name op hop => ?_, fun op hop => ?_, registers _,
    declares _⟩
  · have happend : after start (history ++ more) = after (after start history) more :=
      List.foldl_append
    rw [Registry.get_eq_ok_iff] at hop ⊢
    rw [happend]
    exact within_after _ more name op hop
  · exact Registry.get_eq_ok_iff.2
      (within_after .standard history op.name op (Registry.find?_standard hop))

/-- A definition of a void tag with no more than a name. -/
def Definition.bare (name : String) : Definition := ⟨name, .void, none, none, [], ∅⟩

/-- The operation of a definition with no more than a name. -/
def bareOperation (name : String) : Operation :=
  .element (Element.named Naming.formNamespace name .void)

/-- An input that would replace another, and a list whose third definition repeats its first. -/
def clashingHistory : List Step :=
  [.register (input "textbox" "checked"),
    .declare [.bare "logo", .bare "line", .bare "logo", .bare "late"]]

/-- Both are refused.  The operations before the repeated one are there, and stay when the list is
tried again; the name of the last one is still free, so that it can be added later. -/
theorem registry_of_history_clashing :
    (after .standard clashingHistory).get "textbox" = .ok (input "textbox" "value") ∧
      (after .standard clashingHistory).get "line" = .ok (bareOperation "line") ∧
      (after .standard (clashingHistory ++ clashingHistory)).get "line" =
        .ok (bareOperation "line") ∧
      (declare (after .standard clashingHistory) [.bare "late", .bare "more"]).2 = .ok 2 := by
  obtain ⟨-, hkept, hvocabulary, -, hdeclares⟩ := registry_of_history .standard clashingHistory
  have hline : (after .standard clashingHistory).get "line" = .ok (bareOperation "line") := rfl
  refine ⟨hvocabulary (input "textbox" "value") (by simp [vocabulary]), hline,
    hkept clashingHistory "line" _ hline, ?_⟩
  refine ((hdeclares [.bare "late", .bare "more"]).accepted 2).2 ⟨rfl, ?_, ?_, by decide⟩
  · intro d hd
    simp only [List.mem_cons, List.not_mem_nil, or_false] at hd
    rcases hd with rfl | rfl
    · exact ⟨bareOperation "late", rfl⟩
    · exact ⟨bareOperation "more", rfl⟩
  · decide +kernel

end Extension

end JellyViews
