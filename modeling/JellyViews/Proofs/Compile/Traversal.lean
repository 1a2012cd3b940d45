/-
**A search goes over everything.**

Links may lead anywhere: out of the root, above it, in a circle, or to nothing.  A search lists
every directory that it can get to, under one of its paths, and looks at each entry of a listed
directory once.  So what it finds is said by the directories that it lists: the files are the
entries that lead to files, and what could not be looked at are the entries that lead nowhere.

Main definitions:

* `Compile.Searches` — the courses that a search may take;
* `Compile.entriesIn`, `Compile.entriesOf` — the entries of one directory, and of many;
* `Compile.Traversal` — complete traversals without repetition.

Main results:

* `Compile.searches_search` — a search takes its course;
* `Compile.Searches.distinct`, `Compile.Searches.closed` — **each directory is listed, and once**;
* `Compile.Searches.perm_files`, `Compile.Searches.perm_unreadable` — what is found are the entries
  of listed directories;
* `Compile.Searches.apart_entries` — no entry is looked at twice;
* `Compile.traversal_of_listing` — **a root that can be listed is traversed completely**;
* `Compile.traversal_knotted` — a tree whose links lead in circles, above the root and to nothing.
-/

import JellyViews.Proofs.Compile.Finding

set_option relaxedAutoImplicit false
set_option autoImplicit false

namespace JellyViews

namespace Compile

open FileTree

/-! ### Courses of a search -/

/-- The courses that a search over pending paths may take; `fresh` are the directories that have not
been listed yet. -/
inductive Searches (t : FileTree) (suffix : String) :
    List Location → List Path → Found → Prop where
  | done (fresh : List Location) : Searches t suffix fresh [] .nothing
  | unreadable {fresh : List Location} {p : Path} {pending : List Path} {found : Found}
      {e : FileError} (hp : t.resolve p = .error e)
      (hdest : (destinationFor p suffix).isSome = true) :
      Searches t suffix fresh pending found →
      Searches t suffix fresh (p :: pending) (found.underFailure (.ofReading p e))
  | ignored {fresh : List Location} {p : Path} {pending : List Path} {found : Found}
      {e : FileError} (hp : t.resolve p = .error e)
      (hdest : (destinationFor p suffix).isSome = false) :
      Searches t suffix fresh pending found → Searches t suffix fresh (p :: pending) found
  | directory {fresh : List Location} {p : Path} {pending : List Path} {found : Found}
      {l : Location} (hp : t.resolve p = .ok l) (hdir : t.isDirectory l = true) (hl : l ∈ fresh) :
      Searches t suffix (fresh.erase l) (children t p l ++ pending) found →
      Searches t suffix fresh (p :: pending) (found.underDirectory p)
  | again {fresh : List Location} {p : Path} {pending : List Path} {found : Found}
      {l : Location} (hp : t.resolve p = .ok l) (hdir : t.isDirectory l = true) (hl : l ∉ fresh) :
      Searches t suffix fresh pending found → Searches t suffix fresh (p :: pending) found
  | file {fresh : List Location} {p : Path} {pending : List Path} {found : Found} {l : Location}
      (hp : t.resolve p = .ok l) (hdir : t.isDirectory l = false) :
      Searches t suffix fresh pending found →
      Searches t suffix fresh (p :: pending) (found.underFile p)

/-- A search takes its course. -/
theorem searches_search (t : FileTree) (suffix : String) (fresh : List Location)
    (pending : List Path) : Searches t suffix fresh pending (search t suffix fresh pending) := by
  induction fresh, pending using search.induct t suffix with
  | case1 fresh =>
    rw [search]
    exact .done fresh
  | case2 fresh p pending e hp hdest ih =>
    rw [search]
    simp only [hp, hdest, if_true]
    exact .unreadable hp hdest ih
  | case3 fresh p pending e hp hdest ih =>
    rw [search]
    simp only [hp, hdest]
    exact .ignored hp (by simpa using hdest) ih
  | case4 fresh p pending l hp hdir hl hlt ih =>
    rw [search]
    simp only [hp, hdir, hl, if_true, dif_pos]
    exact .directory hp hdir hl ih
  | case5 fresh p pending l hp hdir hl ih =>
    rw [search]
    simp only [hp, hdir, hl, if_true, dif_neg, not_false_eq_true]
    exact .again hp hdir hl ih
  | case6 fresh p pending l hp hdir ih =>
    rw [search]
    simp only [hp, hdir]
    exact .file hp (by simpa using hdir) ih

/-! ### Entries -/

/-- The entries of a directory; what is no directory has none. -/
def entriesIn (t : FileTree) (p : Path) : List Path :=
  match t.listing p with
  | .ok (_, names) => names.map p.join
  | .error _ => []

/-- The entries of several directories. -/
def entriesOf (t : FileTree) (directories : List Path) : List Path :=
  directories.flatMap (entriesIn t)

section

variable {t : FileTree} {suffix : String} {p : Path} {l : Location}

theorem listing_of_resolve (hp : t.resolve p = .ok l) (hdir : t.isDirectory l = true) :
    t.listing p = .ok (l, t.names l) := by
  simp only [listing, hp, bind, Except.bind, hdir]
  rfl

/-- What can be listed is a directory. -/
theorem of_listing {names : List String} (h : t.listing p = .ok (l, names)) :
    t.resolve p = .ok l ∧ t.isDirectory l = true ∧ names = t.names l := by
  unfold listing at h
  cases hp : t.resolve p with
  | error e => simp [hp, bind, Except.bind] at h
  | ok l' =>
    cases hdir : t.isDirectory l' with
    | false => simp [hp, hdir, bind, Except.bind, throw, throwThe, MonadExceptOf.throw] at h
    | true =>
      obtain ⟨rfl, rfl⟩ : l' = l ∧ t.names l' = names := by
        simpa [hp, hdir, bind, Except.bind, pure, Except.pure] using h
      exact ⟨rfl, hdir, rfl⟩

/-- A path that leads somewhere else than to a directory leads to a file. -/
theorem isFile_of_resolve (hwell : t.WellFormed) (hp : t.resolve p = .ok l) :
    t.isFile p = !t.isDirectory l := by
  have hentry : t.entry p = t.entryAt l := by
    simp only [entry, hp]
    rfl
  rcases hwell.of_resolve hp with hdir | ⟨content, hget⟩
  · simp [isFile, hentry, entryAt, isDirectory_iff.1 hdir, hdir]
  · simp [isFile, hentry, entryAt, hget, isDirectory_of_file hget]

theorem isFile_of_resolve_error {e : FileError} (hp : t.resolve p = .error e) :
    t.isFile p = false := by
  simp only [isFile, entry, hp]
  rfl

theorem isOk_listing_of_resolve (hp : t.resolve p = .ok l) :
    (t.listing p).isOk = t.isDirectory l := by
  simp only [listing, hp, bind, Except.bind]
  cases t.isDirectory l <;> rfl

theorem isOk_listing_of_resolve_error {e : FileError} (hp : t.resolve p = .error e) :
    (t.listing p).isOk = false := by
  simp only [listing, hp, bind, Except.bind]
  rfl

@[simp] theorem entriesOf_nil (t : FileTree) : entriesOf t [] = [] := rfl

theorem entriesOf_cons (hp : t.resolve p = .ok l) (hdir : t.isDirectory l = true)
    (directories : List Path) :
    entriesOf t (p :: directories) = children t p l ++ entriesOf t directories := by
  rw [entriesOf, List.flatMap_cons, entriesIn, listing_of_resolve hp hdir]
  rfl

theorem join_mem_entriesOf (hp : t.resolve p = .ok l) (hdir : t.isDirectory l = true) {n : String}
    (hn : t.get? (l ++ [n]) ≠ none) {directories : List Path} (hmem : p ∈ directories) :
    p.join n ∈ entriesOf t directories := by
  refine List.mem_flatMap.2 ⟨p, hmem, ?_⟩
  rw [entriesIn, listing_of_resolve hp hdir]
  exact List.mem_map_of_mem (mem_names.2 hn)

/-- The first pending path aside, the entries to look at are the same before and after a directory
is listed. -/
theorem perm_entries_cons (hp : t.resolve p = .ok l) (hdir : t.isDirectory l = true)
    (pending directories : List Path) :
    (p :: pending ++ entriesOf t (p :: directories)).Perm
      (p :: (children t p l ++ pending ++ entriesOf t directories)) := by
  rw [entriesOf_cons hp hdir, List.cons_append]
  refine List.Perm.cons p ?_
  rw [← List.append_assoc]
  exact List.perm_append_comm.append_right _

/-- A directory itself aside, what is sought among the entries is sought among those of the
directory and the others. -/
theorem perm_filter_entries (hp : t.resolve p = .ok l) (hdir : t.isDirectory l = true)
    {sought : Path → Bool} (hsought : sought p = false) (pending directories : List Path) :
    ((p :: pending ++ entriesOf t (p :: directories)).filter sought).Perm
      ((children t p l ++ pending ++ entriesOf t directories).filter sought) := by
  have hperm := (perm_entries_cons hp hdir pending directories).filter sought
  rwa [List.filter_cons_of_neg (by simp [hsought])] at hperm

/-- Whether a path could be one of a template, and leads neither to a file nor to a directory. -/
def unopened (t : FileTree) (suffix : String) (p : Path) : Bool :=
  (destinationFor p suffix).isSome && !t.isFile p && !(t.listing p).isOk

theorem unopened_of_resolve (hwell : t.WellFormed) (hp : t.resolve p = .ok l) :
    unopened t suffix p = false := by
  rw [unopened, isFile_of_resolve hwell hp, isOk_listing_of_resolve hp]
  cases t.isDirectory l <;> simp

theorem unopened_of_resolve_error {e : FileError} (hp : t.resolve p = .error e) :
    unopened t suffix p = (destinationFor p suffix).isSome := by
  rw [unopened, isFile_of_resolve_error hp, isOk_listing_of_resolve_error hp]
  simp

namespace Searches

variable {fresh : List Location} {pending : List Path} {found : Found}

/-! ### Listed directories -/

/-- Directories are listed that have not been before. -/
theorem listed (h : Searches t suffix fresh pending found) :
    ∀ p ∈ found.directories, ∃ l ∈ fresh, t.resolve p = .ok l ∧ t.isDirectory l = true := by
  induction h with
  | done fresh => simp [Found.nothing]
  | unreadable _ _ _ ih | ignored _ _ _ ih | again _ _ _ _ ih | file _ _ _ ih => exact ih
  | @directory fresh p pending found l hp hdir hl _ ih =>
    intro q hq
    rcases List.mem_cons.1 hq with rfl | hq
    · exact ⟨l, hl, hp, hdir⟩
    · obtain ⟨m, hm, hres⟩ := ih q hq
      exact ⟨m, List.mem_of_mem_erase hm, hres⟩

/-- **No directory is listed twice**, under whatever paths. -/
theorem distinct (h : Searches t suffix fresh pending found) (hfresh : fresh.Nodup) :
    found.directories.Pairwise fun p q => t.resolve p ≠ t.resolve q := by
  induction h with
  | done fresh => simp [Found.nothing]
  | unreadable _ _ _ ih | ignored _ _ _ ih | again _ _ _ _ ih | file _ _ _ ih => exact ih hfresh
  | @directory fresh p pending found l hp hdir hl hrest ih =>
    refine List.pairwise_cons.2 ⟨fun q hq heq => ?_, ih (hfresh.erase l)⟩
    -- the directories that are listed later are among the others
    obtain ⟨m, hm, hq, -⟩ := hrest.listed q hq
    rw [hp, hq] at heq
    obtain rfl : l = m := by simpa using heq
    exact (hfresh.mem_erase_iff.1 hm).1 rfl

/-- **Every directory is listed to which an entry of a listed one leads**, unless it had been listed
before. -/
theorem closed (h : Searches t suffix fresh pending found) :
    ∀ p ∈ pending ++ entriesOf t found.directories, ∀ l ∈ fresh, t.resolve p = .ok l →
      t.isDirectory l = true → ∃ q ∈ found.directories, t.resolve q = .ok l := by
  induction h with
  | done fresh => simp [Found.nothing]
  | @unreadable fresh p pending found e hp _ _ ih | @ignored fresh p pending found e hp _ _ ih =>
    intro q hq l hl hql hdir
    rcases List.mem_cons.1 hq with rfl | hq
    · simp [hp] at hql
    · exact ih q hq l hl hql hdir
  | @directory fresh p pending found l hp hdir hl _ ih =>
    intro q hq m hm hqm hmdir
    -- either it is this directory, or it is fresh for the rest of the search, too
    by_cases hlm : m = l
    · exact ⟨p, List.mem_cons_self, hlm ▸ hp⟩
    · have hmem := (perm_entries_cons hp hdir pending found.directories).mem_iff.1 hq
      rcases List.mem_cons.1 hmem with rfl | hmem
      · exact absurd (by simpa [hp] using hqm.symm) hlm
      · obtain ⟨r, hr, hrm⟩ := ih q hmem m ((List.mem_erase_of_ne hlm).2 hm) hqm hmdir
        exact ⟨r, List.mem_cons_of_mem _ hr, hrm⟩
  | @again fresh p pending found l hp _ hl _ ih =>
    intro q hq m hm hqm hdir
    rcases List.mem_cons.1 hq with rfl | hq
    · obtain rfl : l = m := by simpa [hp] using hqm
      exact absurd hm hl
    · exact ih q hq m hm hqm hdir
  | @file fresh p pending found l hp hdir _ ih =>
    intro q hq m hm hqm hmdir
    rcases List.mem_cons.1 hq with rfl | hq
    · obtain rfl : l = m := by simpa [hp] using hqm
      simp [hdir] at hmdir
    · exact ih q hq m hm hqm hmdir

/-- Only directories are listed to which the search gets from a pending path. -/
theorem reached (h : Searches t suffix fresh pending found) :
    ∀ p ∈ found.directories, p ∈ pending ++ entriesOf t found.directories := by
  induction h with
  | done fresh => simp [Found.nothing]
  | unreadable _ _ _ ih | ignored _ _ _ ih | again _ _ _ _ ih | file _ _ _ ih =>
    exact fun q hq => List.mem_cons_of_mem _ (ih q hq)
  | @directory fresh p pending found l hp hdir hl _ ih =>
    intro q hq
    rw [Found.directories_underDirectory,
      (perm_entries_cons hp hdir pending found.directories).mem_iff]
    rcases List.mem_cons.1 hq with rfl | hq
    · exact List.mem_cons_self
    · exact List.mem_cons_of_mem _ (ih q hq)

/-! ### Files and failures -/

/-- **The files that are found are the entries that lead to files.** -/
theorem perm_files (hwell : t.WellFormed) (h : Searches t suffix fresh pending found) :
    found.files.Perm ((pending ++ entriesOf t found.directories).filter t.isFile) := by
  induction h with
  | done fresh => simp [Found.nothing]
  | unreadable hp _ _ ih | ignored hp _ _ ih =>
    rw [List.cons_append, List.filter_cons_of_neg (by simp [isFile_of_resolve_error hp])]
    exact ih
  | @directory fresh p pending found l hp hdir hl _ ih =>
    have hfile : t.isFile p = false := by simp [isFile_of_resolve hwell hp, hdir]
    exact ih.trans (perm_filter_entries hp hdir hfile pending found.directories).symm
  | again hp hdir _ _ ih =>
    rw [List.cons_append, List.filter_cons_of_neg (by simp [isFile_of_resolve hwell hp, hdir])]
    exact ih
  | file hp hdir _ ih =>
    rw [List.cons_append, List.filter_cons_of_pos (by simp [isFile_of_resolve hwell hp, hdir])]
    exact ih.cons _

/-- **What could not be looked at are the entries that lead nowhere** and could be templates. -/
theorem perm_unreadable (hwell : t.WellFormed) (h : Searches t suffix fresh pending found) :
    (found.unreadable.map Failure.source).Perm
      ((pending ++ entriesOf t found.directories).filter (unopened t suffix)) := by
  induction h with
  | done fresh => simp [Found.nothing]
  | unreadable hp hdest _ ih =>
    rw [List.cons_append, List.filter_cons_of_pos (by rw [unopened_of_resolve_error hp, hdest])]
    exact ih.cons _
  | ignored hp hdest _ ih =>
    rw [List.cons_append, List.filter_cons_of_neg (by simp [unopened_of_resolve_error hp, hdest])]
    exact ih
  | @directory fresh p pending found l hp hdir hl _ ih =>
    exact ih.trans (perm_filter_entries hp hdir (unopened_of_resolve hwell hp) pending
      found.directories).symm
  | again hp _ _ _ ih | file hp _ _ ih =>
    rw [List.cons_append, List.filter_cons_of_neg (by simp [unopened_of_resolve hwell hp])]
    exact ih

/-- A failure tells why the path leads nowhere. -/
theorem reason (h : Searches t suffix fresh pending found) :
    ∀ f ∈ found.unreadable, ∃ e, t.resolve f.source = .error e ∧ f = .ofReading f.source e := by
  induction h with
  | done fresh => simp [Found.nothing]
  | @unreadable fresh p pending found e hp _ _ ih =>
    intro f hf
    rcases List.mem_cons.1 hf with rfl | hf
    · exact ⟨e, hp, rfl⟩
    · exact ih f hf
  | ignored _ _ _ ih | directory _ _ _ _ ih | again _ _ _ _ ih | file _ _ _ ih => exact ih

/-! ### No entry twice -/

/-- Everything that a search looks at is one of the pending paths, or lies below one of them. -/
theorem entries_below (hwell : t.WellFormed) (h : Searches t suffix fresh pending found) :
    ∀ q ∈ pending ++ entriesOf t found.directories, Below pending q := by
  induction h with
  | done fresh => simp [Found.nothing]
  | unreadable _ _ _ ih | ignored _ _ _ ih | again _ _ _ _ ih | file _ _ _ ih =>
    intro q hq
    rcases List.mem_cons.1 hq with rfl | hq
    · exact ⟨q, List.mem_cons_self, List.prefix_refl _⟩
    · exact (ih q hq).cons _
  | @directory fresh p pending found l hp hdir hl _ ih =>
    intro q hq
    have hmem := (perm_entries_cons hp hdir pending found.directories).mem_iff.1 hq
    rcases List.mem_cons.1 hmem with rfl | hq
    · exact ⟨q, List.mem_cons_self, List.prefix_refl _⟩
    · exact (ih q hq).of_children fun c hc =>
        prefix_of_mem_children hwell (text_ne_empty_of_resolve hp) hc

/-- What lies below paths none of which leads up to `p` is not `p`. -/
theorem components_ne_of_below {q : Path} (h : Below pending q)
    (hpending : ∀ c ∈ pending, ¬ c.components <+: p.components) : p.components ≠ q.components := by
  obtain ⟨c, hc, hcq⟩ := h
  intro heq
  exact hpending c hc (heq ▸ hcq)

/-- **A search looks at no entry twice**, if the pending paths are apart. -/
theorem apart_entries (hwell : t.WellFormed) (h : Searches t suffix fresh pending found)
    (hpending : pending.Pairwise Apart) :
    (pending ++ entriesOf t found.directories).Pairwise fun p q =>
      p.components ≠ q.components := by
  induction h with
  | done fresh => simp [Found.nothing]
  | unreadable _ _ hrest ih | ignored _ _ hrest ih | again _ _ _ hrest ih | file _ _ hrest ih =>
    obtain ⟨hhead, htail⟩ := List.pairwise_cons.1 hpending
    exact List.pairwise_cons.2
      ⟨fun q hq => components_ne_of_below (hrest.entries_below hwell q hq)
        fun c hc => (hhead c hc).2, ih htail⟩
  | @directory fresh p pending found l hp hdir hl hrest ih =>
    obtain ⟨hhead, htail⟩ := List.pairwise_cons.1 hpending
    have hne := text_ne_empty_of_resolve hp
    have hapart : (children t p l ++ pending).Pairwise Apart := List.pairwise_append.2
      ⟨pairwise_apart_children hwell hne l, htail, fun c hc q hq =>
        (hhead q hq).below (prefix_of_mem_children hwell hne hc) (List.prefix_refl _)⟩
    -- an entry of the directory is longer than its path, and the others are apart from it
    have habove : ∀ c ∈ children t p l ++ pending, ¬ c.components <+: p.components := by
      intro c hc
      rcases List.mem_append.1 hc with hc | hc
      · obtain ⟨n, hn, rfl⟩ := List.mem_map.1 hc
        rw [Path.components_join hne (isName_of_mem_names hwell hn)]
        exact fun hprefix => absurd hprefix.length_le (by simp)
      · exact (hhead c hc).2
    refine ((perm_entries_cons hp hdir pending found.directories).pairwise_iff Ne.symm).2 ?_
    exact List.pairwise_cons.2
      ⟨fun q hq => components_ne_of_below (hrest.entries_below hwell q hq) habove, ih hapart⟩

end Searches

/-! ### Complete traversals -/

/-- The directories are all that can be got to from the root, each of them once, and the discovery
is what their entries lead to. -/
structure Traversal (t : FileTree) (root : Path) (suffix : String) (directories : List Path)
    (d : Discovery) : Prop where
  /-- The root is listed. -/
  root_mem : root ∈ directories
  /-- What is listed are directories. -/
  listed : ∀ p ∈ directories, (t.listing p).isOk = true
  /-- Only the root and entries of listed directories are listed. -/
  reached : ∀ p ∈ directories, p = root ∨ p ∈ entriesOf t directories
  /-- No directory is listed twice, under whatever paths. -/
  distinct : directories.Pairwise fun p q => t.resolve p ≠ t.resolve q
  /-- Every directory to which an entry of a listed one leads is listed. -/
  closed : ∀ p ∈ entriesOf t directories, ∀ l names, t.listing p = .ok (l, names) →
    ∃ q ∈ directories, t.resolve q = .ok l
  /-- The entries of listed directories are different paths. -/
  apart : (entriesOf t directories).Pairwise fun p q => p.components ≠ q.components
  /-- The templates are the entries that lead to files and have a destination. -/
  templates : d.jobs.Perm (((entriesOf t directories).filter t.isFile).filterMap (jobOf? suffix))
  /-- They are in strictly ascending order. -/
  ascending : d.jobs.Pairwise fun a b =>
    a.source.precedes b.source = true ∧ a.source.components ≠ b.source.components
  /-- The failures are the entries that have a destination and lead neither to a file nor to a
  directory. -/
  unreadable : (d.unreadable.map Failure.source).Perm
    ((entriesOf t directories).filter (unopened t suffix))
  /-- They tell why. -/
  reason : ∀ f ∈ d.unreadable, ∃ e, t.entry f.source = .error e ∧ f = .ofReading f.source e

/-- A search below a root finds what a search among its entries finds. -/
theorem searchBelow_of_listing {root : Path} {top : Location} {names : List String}
    (h : t.listing root = .ok (top, names)) (suffix : String) :
    searchBelow t root suffix =
      .ok ((search t suffix (t.directories.erase top)
        (children t root top)).underDirectory root) := by
  unfold searchBelow
  rw [h]
  rfl

theorem discover_of_searchBelow {root : Path} {found : Found}
    (h : searchBelow t root suffix = .ok found) :
    discover t root suffix =
      .ok ⟨(found.files.mergeSort Path.precedes).filterMap (jobOf? suffix), found.unreadable⟩ := by
  unfold discover
  rw [h]
  rfl

/-- The course of a search below a root is a complete traversal. -/
theorem Searches.traversal {root : Path} {top : Location} {found : Found} {d : Discovery}
    (hwell : t.WellFormed) (htop : t.resolve root = .ok top) (hdir : t.isDirectory top = true)
    (h : Searches t suffix (t.directories.erase top) (children t root top) found)
    (hd : discover t root suffix = .ok d)
    (hjobs : d.jobs = (found.files.mergeSort Path.precedes).filterMap (jobOf? suffix))
    (hunreadable : d.unreadable = found.unreadable) :
    Traversal t root suffix (root :: found.directories) d := by
  have hfresh : (t.directories.erase top).Nodup := (nodup_directories t).erase top
  have hentries := entriesOf_cons htop hdir found.directories
  have hlisted := h.listed
  constructor
  case root_mem => exact List.mem_cons_self
  case listed =>
    intro p hp
    rcases List.mem_cons.1 hp with rfl | hp
    · rw [isOk_listing_of_resolve htop, hdir]
    · obtain ⟨l, -, hl, hldir⟩ := hlisted p hp
      rw [isOk_listing_of_resolve hl, hldir]
  case reached =>
    intro p hp
    rcases List.mem_cons.1 hp with rfl | hp
    · exact .inl rfl
    · exact .inr (hentries ▸ h.reached p hp)
  case distinct =>
    refine List.pairwise_cons.2 ⟨fun p hp heq => ?_, h.distinct hfresh⟩
    obtain ⟨l, hl, hpl, -⟩ := hlisted p hp
    obtain rfl : top = l := by simpa [htop, hpl] using heq
    exact ((nodup_directories t).mem_erase_iff.1 hl).1 rfl
  case closed =>
    intro p hp l names hl
    obtain ⟨hpl, hldir, -⟩ := of_listing hl
    by_cases hltop : l = top
    · exact ⟨root, List.mem_cons_self, hltop ▸ htop⟩
    · have hmem : l ∈ t.directories.erase top :=
        (List.mem_erase_of_ne hltop).2 (mem_directories.2 hldir)
      obtain ⟨q, hq, hql⟩ := h.closed p (hentries ▸ hp) l hmem hpl hldir
      exact ⟨q, List.mem_cons_of_mem _ hq, hql⟩
  case apart =>
    rw [hentries]
    exact h.apart_entries hwell (pairwise_apart_children hwell (text_ne_empty_of_resolve htop) top)
  case templates =>
    rw [hentries, hjobs]
    exact ((List.mergeSort_perm _ _).trans (h.perm_files hwell)).filterMap _
  case ascending => exact pairwise_of_discover hwell hd
  case unreadable =>
    rw [hentries, hunreadable]
    exact h.perm_unreadable hwell
  case reason =>
    intro f hf
    obtain ⟨e, he, hfe⟩ := h.reason f (hunreadable ▸ hf)
    refine ⟨e, ?_, hfe⟩
    simp only [entry, he]
    rfl

/-- What was discovered was traversed completely. -/
theorem traversal_of_discover {root : Path} {d : Discovery} (hwell : t.WellFormed)
    (hd : discover t root suffix = .ok d) :
    ∃ directories, Traversal t root suffix directories d := by
  obtain ⟨top, -, htop, hdir, -⟩ := discover_eq_ok hd
  have hfound := discover_of_searchBelow
    (searchBelow_of_listing (listing_of_resolve htop hdir) suffix)
  obtain rfl := Except.ok.inj (hfound.symm.trans hd)
  exact ⟨_, (searches_search t suffix _ _).traversal hwell htop hdir hd rfl rfl⟩

/-- **A root that can be listed is traversed completely**, wherever links lead. -/
theorem traversal_of_listing {root : Path} {top : Location} {names : List String}
    (hwell : t.WellFormed) (hroot : t.listing root = .ok (top, names)) (suffix : String) :
    ∃ found d, searchBelow t root suffix = .ok found ∧ discover t root suffix = .ok d ∧
      Traversal t root suffix found.directories d := by
  obtain ⟨htop, hdir, -⟩ := of_listing hroot
  have hbelow := searchBelow_of_listing hroot suffix
  have hdiscover := discover_of_searchBelow hbelow
  exact ⟨_, _, hbelow, hdiscover,
    (searches_search t suffix _ _).traversal hwell htop hdir hdiscover rfl rfl⟩

end

/-- A tree with a template, a link to nothing, a link from a directory to the root above it, a link
to a directory out of the root, and a link above the root. -/
def knotted : FileTree :=
  ⟨.ofList [(["r"], .directory), (["r", "a.tera"], .file (encode "a")),
    (["r", "gone.tera"], .link "nowhere"), (["r", "out"], .link "../o"),
    (["r", "sub"], .directory), (["r", "sub", "back"], .link ".."), (["r", "up"], .link ".."),
    (["o"], .directory), (["o", "b.tera"], .file (encode "b"))], []⟩

/-- The directory out of the root is listed, and the link to nothing could not be looked at. -/
theorem traversal_knotted :
    ∃ found d, searchBelow knotted ⟨"r"⟩ "tera" = .ok found ∧
      discover knotted ⟨"r"⟩ "tera" = .ok d ∧
      Traversal knotted ⟨"r"⟩ "tera" found.directories d ∧
      (∃ q ∈ found.directories, knotted.resolve q = .ok ["o"]) ∧
      ⟨"r/gone.tera"⟩ ∈ d.unreadable.map Failure.source := by
  have hroot : knotted.resolve ⟨"r"⟩ = .ok ["r"] := rfl
  obtain ⟨found, d, hfound, hd, h⟩ := traversal_of_listing
    (wellFormed_of_entries (by decide +kernel)) (listing_of_resolve hroot rfl) "tera"
  have hentry {n : String} (hn : knotted.get? ["r", n] ≠ none) :
      Path.join ⟨"r"⟩ n ∈ entriesOf knotted found.directories :=
    join_mem_entriesOf hroot rfl hn h.root_mem
  refine ⟨found, d, hfound, hd, h, ?_, ?_⟩
  · exact h.closed _ (hentry (n := "out") (by decide +kernel)) ["o"] _ (listing_of_resolve rfl rfl)
  · exact h.unreadable.mem_iff.2 (List.mem_filter.2
      ⟨hentry (n := "gone.tera") (by decide +kernel), by decide +kernel⟩)

end Compile

end JellyViews
