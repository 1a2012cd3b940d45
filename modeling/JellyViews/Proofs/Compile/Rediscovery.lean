/-
**Finding the same templates again.**

A tree may grow by files: no directory and no link comes or goes, and what has a name keeps it.  If
the names of the new files are not names of templates, a search through the grown tree takes the
same course.  It meets the new files on the way, but they neither lead anywhere nor count among what
it finds.

Main definitions:

* `Compile.Grown` — trees that have grown by files which are no templates;
* `Compile.Padded` — pending paths, with those of new files between them.

Main results:

* `Compile.Searches.unique` — the course of a search is settled by where it starts;
* `Compile.Searches.of_padded` — **a search passes over the new files**;
* `Compile.discover_of_grown` — **the grown tree has the same templates**.
-/

import JellyViews.Proofs.Compile.Traversal

set_option relaxedAutoImplicit false
set_option autoImplicit false

namespace JellyViews

namespace Compile

open FileTree

/-! ### Grown trees -/

/-- The tree `t'` has grown out of `t` by files whose names are no names of templates.  Other files
may have changed. -/
structure Grown (t t' : FileTree) (suffix : String) : Prop where
  frame : SameFrame t t'
  directories : t'.directories = t.directories
  kept {l : Location} : t.get? l ≠ none → t'.get? l ≠ none
  added {dir : Location} {n : String} : t.get? (dir ++ [n]) = none → t'.get? (dir ++ [n]) ≠ none →
    stemOf? suffix n = none

/-- The pending paths of a search through `t`, and those of a search through `t'`, which meets other
files in between. -/
inductive Padded (t t' : FileTree) (suffix : String) : List Path → List Path → Prop where
  | nil : Padded t t' suffix [] []
  | keep {p : Path} {ps qs : List Path} (hp : t'.resolve p = t.resolve p) :
      Padded t t' suffix ps qs → Padded t t' suffix (p :: ps) (p :: qs)
  | skip {q : Path} {ps qs : List Path} (hdest : destinationFor q suffix = none)
      (hq : ∀ l, t'.resolve q = .ok l → t'.isDirectory l = false) :
      Padded t t' suffix ps qs → Padded t t' suffix ps (q :: qs)

section

variable {t t' : FileTree} {root : Path} {top : Location} {suffix : String}

theorem Padded.append {ps qs ps' qs' : List Path} (h : Padded t t' suffix ps qs)
    (h' : Padded t t' suffix ps' qs') : Padded t t' suffix (ps ++ ps') (qs ++ qs') := by
  induction h with
  | nil => exact h'
  | keep hp _ ih => exact .keep hp ih
  | skip hdest hq _ ih => exact .skip hdest hq ih

/-- A path to a name that is there in both trees leads to the same location. -/
theorem Met.resolve_of_grown {q : Path} {names : List String} {n : String}
    (hgrown : Grown t t' suffix) (hlink : t.UnlinkedBelow top) (h : Met t root top q names n)
    (hget : t.get? (top ++ names ++ [n]) ≠ none) : t'.resolve q = t.resolve q := by
  have hlink' : t'.UnlinkedBelow top := fun ns hns => hgrown.frame.unlinked (hlink ns hns)
  obtain ⟨e, he⟩ := Option.ne_none_iff_exists'.1 hget
  obtain ⟨e', he'⟩ := Option.ne_none_iff_exists'.1 (hgrown.kept hget)
  rw [(h.of_sameFrame hgrown.frame).resolve_eq hlink', h.resolve_eq hlink]
  simp only [entryAt, he, he']
  rfl

/-- The entries of a directory, with new ones between the old ones. -/
theorem padded_children (hgrown : Grown t t' suffix) (hlink : t.UnlinkedBelow top) {p : Path}
    {l : Location} {names : List String} (hl : l = top ++ names)
    (hmet : ∀ n ∈ t'.names l, Met t root top (p.join n) names n) :
    Padded t t' suffix (children t p l) (children t' p l) := by
  have hthere : ∀ n ∈ t'.names l, t'.get? (l ++ [n]) ≠ none := fun n hn => mem_names.1 hn
  have hlink' : t'.UnlinkedBelow top := fun ns hns => hgrown.frame.unlinked (hlink ns hns)
  unfold children
  rw [names_eq_filter fun n => hgrown.kept]
  generalize t'.names l = ns at hmet hthere
  subst hl
  induction ns with
  | nil => exact .nil
  | cons n ns ih =>
    have hn := hmet n List.mem_cons_self
    have hrest := ih (fun m hm => hmet m (List.mem_cons_of_mem _ hm))
      fun m hm => hthere m (List.mem_cons_of_mem _ hm)
    by_cases hget : t.get? (top ++ names ++ [n]) = none
    · have hdir : t'.isDirectory (top ++ names ++ [n]) = false := by
        rw [hgrown.frame.directory, isDirectory, hget]
        rfl
      rw [List.filter_cons_of_neg (by rw [hget]; simp)]
      refine .skip ?_ (fun l hl => ?_) hrest
      · simp [destinationFor, Path.fileName?_join hn.isName_last,
          hgrown.added hget (hthere n List.mem_cons_self)]
      · obtain ⟨rfl, -⟩ := (hn.of_sameFrame hgrown.frame).of_resolve hlink' hl
        exact hdir
    · rw [List.filter_cons_of_pos (by simpa [Option.isSome_iff_ne_none] using hget)]
      exact .keep (hn.resolve_of_grown hgrown hlink hget) hrest

/-- Listing a directory that a search has met, the search goes on with paths that it has met. -/
theorem Met.padded_children (hgrown : Grown t t' suffix) (hlink : t.UnlinkedBelow top)
    (hwell' : t'.WellFormed) {p : Path} {l : Location} {names : List String} {s : String}
    (h : Met t root top p names s) (hres : t.resolve p = .ok l) (hdir : t.isDirectory l = true) :
    Padded t t' suffix (children t p l) (children t' p l) ∧
      ∀ q ∈ children t' p l, ∃ names n, Met t root top q names n := by
  have hchild : ∀ n ∈ t'.names l, Met t root top (p.join n) (names ++ [s]) n := fun n hn =>
    h.child hlink hres hdir (isName_of_mem_names hwell' hn)
  have hlocation : l = top ++ (names ++ [s]) := by
    rw [(h.of_resolve hlink hres).1, List.append_assoc]
  refine ⟨Compile.padded_children hgrown hlink hlocation hchild, fun q hq => ?_⟩
  obtain ⟨n, hn, rfl⟩ := List.mem_map.1 hq
  exact ⟨names ++ [s], n, hchild n hn⟩

/-! ### Courses of a search -/

/-- The course of a search is settled by where it starts. -/
theorem Searches.unique {fresh : List Location} {pending : List Path} {found : Found}
    (h : Searches t suffix fresh pending found) : found = search t suffix fresh pending := by
  induction h with
  | done fresh => rw [search]
  | unreadable hp hdest _ ih =>
    rw [search]
    simp only [hp, hdest, if_true, ← ih]
  | ignored hp hdest _ ih =>
    rw [search]
    simp [hp, hdest, ← ih]
  | directory hp hdir hl _ ih =>
    rw [search]
    simp only [hp, hdir, hl, if_true, dif_pos, ← ih]
  | again hp hdir hl _ ih =>
    rw [search]
    simp only [hp, hdir, hl, if_true, dif_neg, not_false_eq_true, ← ih]
  | file hp hdir _ ih =>
    rw [search]
    simp [hp, hdir, ← ih]

/-- **A search passes over the new files.** -/
theorem Searches.of_padded (hgrown : Grown t t' suffix) (hlink : t.UnlinkedBelow top)
    (hwell' : t'.WellFormed) {fresh : List Location} {ps qs : List Path} {found' : Found}
    (h : Searches t' suffix fresh qs found') (hpadded : Padded t t' suffix ps qs)
    (hmet : ∀ q ∈ qs, ∃ names n, Met t root top q names n) :
    ∃ found, Searches t suffix fresh ps found ∧ found.unreadable = found'.unreadable ∧
      found.files.filterMap (jobOf? suffix) = found'.files.filterMap (jobOf? suffix) := by
  -- what is pending in the grown tree is what is pending in the other one, and new files
  induction h generalizing ps with
  | done fresh =>
    cases hpadded
    exact ⟨_, .done fresh, rfl, rfl⟩
  | unreadable hp hdest _ ih =>
    cases hpadded with
    | keep hres hrest =>
      obtain ⟨found, hfound, hunreadable, hjobs⟩ := ih hrest (List.forall_mem_cons.1 hmet).2
      exact ⟨_, .unreadable (hres.symm.trans hp) hdest hfound,
        congrArg (List.cons _) hunreadable, hjobs⟩
    | skip hnone _ _ => simp [hnone] at hdest
  | ignored hp hdest _ ih =>
    cases hpadded with
    | keep hres hrest =>
      obtain ⟨found, hfound, hunreadable, hjobs⟩ := ih hrest (List.forall_mem_cons.1 hmet).2
      exact ⟨_, .ignored (hres.symm.trans hp) hdest hfound, hunreadable, hjobs⟩
    | skip _ _ hrest => exact ih hrest (List.forall_mem_cons.1 hmet).2
  | @directory fresh p pending found' l hp hdir hl _ ih =>
    cases hpadded with
    | keep hres hrest =>
      have hres := hres.symm.trans hp
      have hdir : t.isDirectory l = true := by rwa [hgrown.frame.directory] at hdir
      obtain ⟨⟨names, s, hmetp⟩, hmetrest⟩ := List.forall_mem_cons.1 hmet
      obtain ⟨hchildren, hmetchildren⟩ := hmetp.padded_children hgrown hlink hwell' hres hdir
      obtain ⟨found, hfound, hunreadable, hjobs⟩ :=
        ih (hchildren.append hrest) (List.forall_mem_append.2 ⟨hmetchildren, hmetrest⟩)
      exact ⟨_, .directory hres hdir hl hfound, hunreadable, hjobs⟩
    | skip _ hq _ => simp [hq l hp] at hdir
  | @again fresh p pending found' l hp hdir hl _ ih =>
    cases hpadded with
    | keep hres hrest =>
      obtain ⟨found, hfound, hunreadable, hjobs⟩ := ih hrest (List.forall_mem_cons.1 hmet).2
      rw [hgrown.frame.directory] at hdir
      exact ⟨_, .again (hres.symm.trans hp) hdir hl hfound, hunreadable, hjobs⟩
    | skip _ hq _ => simp [hq l hp] at hdir
  | file hp hdir _ ih =>
    cases hpadded with
    | keep hres hrest =>
      obtain ⟨found, hfound, hunreadable, hjobs⟩ := ih hrest (List.forall_mem_cons.1 hmet).2
      rw [hgrown.frame.directory] at hdir
      refine ⟨_, .file (hres.symm.trans hp) hdir hfound, hunreadable, ?_⟩
      simp only [Found.files_underFile, List.filterMap_cons, hjobs]
    | skip hnone _ hrest =>
      obtain ⟨found, hfound, hunreadable, hjobs⟩ := ih hrest (List.forall_mem_cons.1 hmet).2
      refine ⟨found, hfound, hunreadable, ?_⟩
      rw [hjobs, Found.files_underFile, List.filterMap_cons_none (by simp [jobOf?, hnone])]

/-! ### Templates -/

/-- Discoveries are equal if they have the same templates in any order, as these are sorted. -/
theorem eq_of_perm_jobs {d d' : Discovery} (hwell : t.WellFormed) (hwell' : t'.WellFormed)
    (hd : discover t root suffix = .ok d) (hd' : discover t' root suffix = .ok d')
    (hjobs : d.jobs.Perm d'.jobs) (hunreadable : d.unreadable = d'.unreadable) : d = d' := by
  have heq : d.jobs = d'.jobs := by
    refine hjobs.eq_of_pairwise (fun a b _ _ hab hba => ?_) (pairwise_of_discover hwell hd)
      (pairwise_of_discover hwell' hd')
    exact absurd (Path.precedes_antisymm hab.1 hba.1) hab.2
  cases d
  cases d'
  simp_all

/-- **A tree that has grown by other files has the same templates.** -/
theorem discover_of_grown (hgrown : Grown t t' suffix) (hwell : t.WellFormed)
    (hwell' : t'.WellFormed) (hlink : ∀ top, t.resolve root = .ok top → t.UnlinkedBelow top)
    {d : Discovery} (hd : discover t root suffix = .ok d) : discover t' root suffix = .ok d := by
  obtain ⟨top, -, htop, hdir, -⟩ := discover_eq_ok hd
  have htop' := resolve_of_sameFrame hgrown.frame htop hdir
  have hdir' : t'.isDirectory top = true := by rw [hgrown.frame.directory, hdir]
  have hbelow :=
    discover_of_searchBelow (searchBelow_of_listing (listing_of_resolve htop hdir) suffix)
  have hbelow' :=
    discover_of_searchBelow (searchBelow_of_listing (listing_of_resolve htop' hdir') suffix)
  have hmet : ∀ n ∈ t'.names top, Met t root top (root.join n) [] n := fun n hn =>
    .of_root htop hdir (isName_of_mem_names hwell' hn)
  have hpadded := padded_children hgrown (hlink top htop) (List.append_nil top).symm hmet
  obtain ⟨found, hfound, hunreadable, hjobs⟩ := (searches_search t' suffix
    (t'.directories.erase top) (children t' root top)).of_padded hgrown (hlink top htop) hwell'
      hpadded fun q hq => by
        obtain ⟨n, hn, rfl⟩ := List.mem_map.1 hq
        exact ⟨[], n, hmet n hn⟩
  rw [hgrown.directories] at hfound hbelow' hunreadable hjobs
  obtain rfl := hfound.unique
  rw [hd] at hbelow
  have hperm (files : List Path) : ((files.mergeSort Path.precedes).filterMap (jobOf? suffix)).Perm
      (files.filterMap (jobOf? suffix)) := (List.mergeSort_perm files _).filterMap _
  rw [hbelow', ← eq_of_perm_jobs hwell hwell' hd hbelow' ?_ ?_]
  · rw [Except.ok.inj hbelow]
    exact (hperm _).trans (hjobs ▸ (hperm _).symm)
  · rw [Except.ok.inj hbelow]
    exact hunreadable

end

end Compile

end JellyViews
