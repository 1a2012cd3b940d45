/-
**What renderings depend on.**

A rendering takes nothing from the functions and filters of an engine but the answers to the names
that it looks up.  So two engines treat a template alike up to the first name to which they have
different answers, and altogether if there is no such name on the way.  This is so in every
language, and it does not matter how its renderings go on, or whether they end at all.

Main definitions:

* `Template.Use.isTag` — the names of the tags of a registry;
* `Template.Use.isOf` — the names that an operation takes.

Main results:

* `Template.Language.tables_apply` — what a name stands for in an engine;
* `Template.Language.Step.congr`, `Template.Language.Leads.congr` — **only the names that are looked
  up matter**;
* `Template.Language.Leads.cut` — the first of certain names on the way;
* `Template.Language.Yields.eq` — a rendering comes to one thing only;
* `Template.Language.Yields.or_reaches` — **two engines agree or come to a name** on which they may
  differ.
-/

import JellyViews.Proofs.Tag.Registering
import JellyViews.Template.Language

set_option relaxedAutoImplicit false
set_option autoImplicit false

namespace JellyViews

namespace Template

open Tag

/-! ### The names of an engine -/

/-- Whether the name is one that an operation takes. -/
def Use.isOf (op : Operation) : Use → Bool
  | function name => op.name == name
  | filter name => op.acceptsBody && op.name == name

/-- Whether the name is that of a tag. -/
def Use.isTag (r : Registry) : Use → Bool
  | function name => r.contains name
  | filter name => isTagFilter r name

/-- The tags of a registry are its operations, each under the names that it takes. -/
theorem Use.any_isOf (r : Registry) (u : Use) : (r.ops.any fun op => u.isOf op) = u.isTag r := by
  cases u with
  | function name => exact List.isSome_find?.symm
  | filter name =>
    rw [Bool.eq_iff_iff, List.any_eq_true, isTag, isTagFilter]
    cases h : r.find? name with
    | none =>
      have hnone : ∀ op ∈ r.ops, op.name ≠ name := by
        rintro op hop rfl
        rw [Registry.mem_ops_iff.1 hop] at h
        cases h
      simpa [isOf] using fun op hop _ => hnone op hop
    | some op =>
      obtain rfl := Registry.name_of_find? h
      simp only [isOf, Bool.and_eq_true, beq_iff_eq]
      constructor
      · rintro ⟨op', hop', hbody, hname⟩
        rw [← hname, Registry.mem_ops_iff.1 hop'] at h
        exact Option.some.inj h ▸ hbody
      · exact fun hbody => ⟨op, Registry.mem_ops_iff.2 h, hbody, rfl⟩

namespace Language

variable {F G : Type} {L : Language F G}

theorem bind_apply (r : Registry) (t : Tables F G) (op : Operation) (u : Use) :
    L.bind r t op u = if u.isOf op then some (L.tag r u) else t u := by
  unfold bind
  cases u with
  | function name =>
    by_cases hname : op.name = name
    · subst hname
      split <;> simp [Use.isOf]
    · split <;> simp [Use.isOf, hname, Ne.symm hname, Function.update]
  | filter name =>
    by_cases hname : op.name = name
    · subst hname
      split <;> simp [Use.isOf, *]
    · split <;> simp [Use.isOf, hname, Ne.symm hname, Function.update]

theorem foldl_bind_apply (r : Registry) (ops : List Operation) (t : Tables F G) (u : Use) :
    ops.foldl (L.bind r) t u =
      if ops.any fun op => u.isOf op then some (L.tag r u) else t u := by
  induction ops generalizing t with
  | nil => rfl
  | cons op ops ih =>
    rw [List.foldl_cons, ih, bind_apply, List.any_cons]
    cases u.isOf op <;> cases ops.any fun op => u.isOf op <;> rfl

/-- **In an engine, a name stands for the tag that has it, or else for what it is in the
language.** -/
theorem tables_apply (r : Registry) (u : Use) :
    L.tables r u = if u.isTag r then some (L.tag r u) else L.own u := by
  rw [tables, foldl_bind_apply, Use.any_isOf]

/-! ### Renderings on their way -/

section

variable {t t' : Tables F G} {s s' s'' : L.State} {us vs : List Use}

/-- A step takes no more from the tables than what the name stands for that it looks up. -/
theorem Step.congr (h : L.Step t s us s') (hus : ∀ u ∈ us, t u = t' u) : L.Step t' s us s' := by
  cases h with
  | on h => exact .on h
  | @lookUp u next h =>
    rw [hus u (List.mem_singleton_self u)]
    exact .lookUp h

/-- **A rendering takes no more from the tables than what the names stand for that it looks up.** -/
theorem Leads.congr (h : L.Leads t s us s') (hus : ∀ u ∈ us, t u = t' u) : L.Leads t' s us s' := by
  induction h with
  | refl s => exact .refl s
  | step h _ ih =>
    rw [List.forall_mem_append] at hus
    exact .step (h.congr hus.1) (ih hus.2)

theorem Reaches.step {u : Use} {next : Option (u.Of F G) → L.State} (h : L.Step t s us s')
    (h' : L.Reaches t s' vs u next) : L.Reaches t s (us ++ vs) u next :=
  h'.imp fun _ ⟨hleads, hmove⟩ => ⟨.step h hleads, hmove⟩

/-- A rendering can be followed up to the first name of a kind that it looks up, and from there
on. -/
theorem Leads.cut (p : Use → Bool) (h : L.Leads t s us s') :
    (∀ u ∈ us, p u = false) ∨ ∃ vs u next ws, L.Reaches t s vs u next ∧
      (∀ v ∈ vs, p v = false) ∧ p u = true ∧ L.Leads t (next (t u)) ws s' := by
  induction h with
  | refl s => exact .inl (by simp)
  | step h hrest ih =>
    cases h with
    | on h =>
      refine ih.imp id ?_
      rintro ⟨vs, u, next, ws, hreaches, hvs, hu⟩
      exact ⟨vs, u, next, ws, hreaches.step (.on h), hvs, hu⟩
    | @lookUp u next h =>
      cases hp : p u with
      | true => exact .inr ⟨[], u, next, _, ⟨_, .refl _, h⟩, by simp, hp, hrest⟩
      | false =>
        refine ih.imp (fun hrest => List.forall_mem_cons.2 ⟨hp, hrest⟩) ?_
        rintro ⟨vs, v, next', ws, hreaches, hvs, hv⟩
        exact ⟨u :: vs, v, next', ws, hreaches.step (.lookUp h),
          List.forall_mem_cons.2 ⟨hp, hvs⟩, hv⟩

/-- A step is all that can be done in a state. -/
theorem Step.eq (h : L.Step t s us s') (h' : L.Step t s vs s'') : us = vs ∧ s' = s'' := by
  cases h with
  | on h =>
    cases h' with
    | on h' =>
      obtain rfl : s' = s'' := by simpa [h] using h'
      exact ⟨rfl, rfl⟩
    | lookUp h' => simp [h] at h'
  | lookUp h =>
    cases h' with
    | on h' => simp [h] at h'
    | lookUp h' =>
      rw [h] at h'
      cases h'
      exact ⟨rfl, rfl⟩

/-- A rendering that has ended makes no step. -/
theorem Step.not_ends {o : Except Chain String} (h : L.Step t s us s') : L.move s ≠ .ends o := by
  cases h with
  | on h => simp [h]
  | lookUp h => simp [h]

/-- A rendering has one end. -/
theorem Leads.eq {o o' : Except Chain String} (h : L.Leads t s us s') (hs' : L.move s' = .ends o)
    (h' : L.Leads t s vs s'') (hs'' : L.move s'' = .ends o') : us = vs ∧ s' = s'' := by
  induction h generalizing vs with
  | refl s =>
    cases h' with
    | refl => exact ⟨rfl, rfl⟩
    | step h' _ => exact absurd hs' h'.not_ends
  | step h _ ih =>
    cases h' with
    | refl => exact absurd hs'' h.not_ends
    | step h' hrest' =>
      obtain ⟨rfl, rfl⟩ := h.eq h'
      obtain ⟨rfl, rfl⟩ := ih hs' hrest'
      exact ⟨rfl, rfl⟩

end

/-! ### What renderings come to -/

section

variable {t t' : Tables F G} {name : String} {s : L.State}
  {outcome outcome' : Except RenderError String}

/-- **A rendering comes to one thing only.** -/
theorem Yields.eq (h : L.Yields t name s outcome) (h' : L.Yields t name s outcome') :
    outcome = outcome' := by
  obtain ⟨us, s₁, o, hleads, hends, rfl⟩ := h
  obtain ⟨us', s₂, o', hleads', hends', rfl⟩ := h'
  obtain ⟨-, rfl⟩ := hleads.eq hends hleads' hends'
  rw [hends] at hends'
  cases hends'
  rfl

/-- **A rendering comes to the same with two tables, or to a name** of a kind on which they may
differ, with no such name behind it, and goes on from there. -/
theorem Yields.or_reaches (p : Use → Bool) (hp : ∀ u, p u = false → t u = t' u)
    (h : L.Yields t name s outcome) :
    L.Yields t' name s outcome ∨ ∃ us u next, L.Reaches t s us u next ∧
      L.Reaches t' s us u next ∧ (∀ v ∈ us, p v = false) ∧ p u = true ∧
      L.Yields t name (next (t u)) outcome := by
  obtain ⟨us, s', o, hleads, hends, rfl⟩ := h
  refine (hleads.cut p).imp (fun hus => ?_) ?_
  · exact ⟨us, s', o, hleads.congr fun u hu => hp u (hus u hu), hends, rfl⟩
  · rintro ⟨vs, u, next, ws, ⟨s'', hleads', hmove⟩, hvs, hu, hrest⟩
    have hsame := hleads'.congr fun v hv => hp v (hvs v hv)
    exact ⟨vs, u, next, ⟨s'', hleads', hmove⟩, ⟨s'', hsame, hmove⟩, hvs, hu, ws, s', o, hrest,
      hends, rfl⟩

end

end Language

end Template

end JellyViews
