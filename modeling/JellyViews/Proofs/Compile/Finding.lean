/-
**What a search finds.**

A search below a root without links meets every file under the path that names it below the root,
and meets no file twice.  So a template is known by its directory and its stem, and its output is
the file of this stem in the same directory.  Sorting puts a template whose name goes on behind that
of another one after it; hence no template is overwritten by an output before it is compiled.

Main definitions:

* `Compile.Met` — a path that names an entry below the root;
* `Compile.Apart`, `Compile.Below` — paths of which none lies below the other, or one does;
* `Compile.Sited` — where a template and its output are.

Main results:

* `Compile.stemOf?_eq_some` — the names of templates;
* `Compile.met_files`, `Compile.pairwise_apart_files` — **what a search meets is there, once**;
* `Compile.sited_of_discover`, `Compile.pairwise_of_discover` — the templates of a run.
-/

import JellyViews.Compile.Discovery
import JellyViews.Proofs.FileTree.Changes
import JellyViews.Proofs.Path.Order

set_option relaxedAutoImplicit false
set_option autoImplicit false

namespace JellyViews

namespace Compile

open FileTree

/-! ### Stems -/

theorem stripEnd?_eq_some {ending text front : List Char} :
    stripEnd? ending text = some front ↔ text = front ++ ending := by
  unfold stripEnd?
  constructor
  · intro h
    split at h
    · rename_i hsuffix
      obtain ⟨r, rfl⟩ := List.isSuffixOf_iff_suffix.1 hsuffix
      have hr : r = front := by simpa using h
      rw [hr]
    · simp at h
  · rintro rfl
    simp

/-- A template has a stem, which is not empty, behind it a dot, and behind that the suffix. -/
theorem stemOf?_eq_some {suffix name stem : String} :
    stemOf? suffix name = some stem ↔ name = stem ++ ("." ++ suffix) ∧ stem ≠ "" := by
  have hname (front : List Char) : name.toList = front ++ '.' :: suffix.toList ↔
      name = String.ofList front ++ ("." ++ suffix) := by
    rw [← String.toList_inj]
    simp
  unfold stemOf?
  split
  · rename_i c cs h
    rw [stripEnd?_eq_some, hname] at h
    constructor
    · intro hstem
      obtain rfl : String.ofList (c :: cs) = stem := by simpa using hstem
      exact ⟨h, by simp⟩
    · rintro ⟨hstem, -⟩
      rw [h, ← String.toList_inj] at hstem
      have hlist : c :: cs = stem.toList := List.append_cancel_right (by simpa using hstem)
      simp [hlist]
  · rename_i h
    refine ⟨by simp, ?_⟩
    rintro ⟨hstem, hne⟩
    cases hlist : stem.toList with
    | nil => exact absurd (by simpa using hlist) hne
    | cons c cs =>
      refine absurd (stripEnd?_eq_some.2 ?_) (h c cs)
      rw [hname, ← hlist, String.ofList_toList]
      exact hstem

/-! ### Paths below the root -/

/-- The path names an entry below the root, where no link is on the way: it goes over the names of
directories and ends with `s`.  The root leads to `top`. -/
structure Met (t : FileTree) (root : Path) (top : Location) (p : Path) (names : List String)
    (s : String) : Prop where
  path : p = root.below (names ++ [s])
  front : t.resolve (root.below names) = .ok (top ++ names)
  directory : t.isDirectory (top ++ names) = true
  isName : ∀ n ∈ names ++ [s], Path.IsName n

section

variable {t : FileTree} {root p : Path} {top : Location} {names : List String} {s suffix : String}

theorem text_ne_empty_of_resolve {l : Location} (h : t.resolve p = .ok l) : p.text ≠ "" :=
  ne_empty_of_checkText (walk_of_resolve h).1

namespace Met

theorem isName_last (h : Met t root top p names s) : Path.IsName s := h.isName s (by simp)

theorem path_eq_join (h : Met t root top p names s) : p = (root.below names).join s := by
  rw [h.path, Path.below_concat]

theorem segments_eq (h : Met t root top p names s) :
    p.segments = (root.below names).inside ++ [s] := by
  rw [h.path_eq_join, Path.segments_join _ h.isName_last.noSlash]

theorem leads (h : Met t root top p names s) : t.Leads p (top ++ names) s := by
  rw [h.path_eq_join]
  exact Leads.join h.front h.directory h.isName_last.noSlash

theorem resolve_eq (h : Met t root top p names s) (hlink : t.UnlinkedBelow top) :
    t.resolve p =
      if Fits p s then (t.entryAt (top ++ names ++ [s])).map fun _ => top ++ names ++ [s]
      else .error .nameTooLong := by
  refine h.leads.resolve_of_name h.isName_last.notIdle h.isName_last.2.2 ?_
  rw [List.append_assoc]
  exact hlink _ (by simp)

/-- A path that is met and leads somewhere leads to its own location. -/
theorem of_resolve (h : Met t root top p names s) (hlink : t.UnlinkedBelow top) {l : Location}
    (hl : t.resolve p = .ok l) :
    l = top ++ names ++ [s] ∧ Fits p s ∧ t.get? (top ++ names ++ [s]) ≠ none := by
  rw [h.resolve_eq hlink] at hl
  split at hl
  · rename_i hfits
    cases hget : t.get? (top ++ names ++ [s]) with
    | none => simp [entryAt, hget, Except.map, -List.append_assoc] at hl
    | some e =>
      have heq : top ++ names ++ [s] = l := by
        simpa [entryAt, hget, Except.map, -List.append_assoc] using hl
      exact ⟨heq.symm, hfits, by simp⟩
  · simp at hl

/-- What stands in a directory that is met is met. -/
theorem child (h : Met t root top p names s) (hlink : t.UnlinkedBelow top) {l : Location}
    (hl : t.resolve p = .ok l) (hdir : t.isDirectory l = true) {n : String}
    (hname : Path.IsName n) : Met t root top (p.join n) (names ++ [s]) n := by
  obtain ⟨rfl, -, -⟩ := h.of_resolve hlink hl
  refine ⟨by rw [Path.below_concat, h.path], ?_, ?_, ?_⟩
  · rw [← h.path, hl, List.append_assoc]
  · rw [← List.append_assoc]
    exact hdir
  · intro m hm
    rcases List.mem_append.1 hm with hm | hm
    · exact h.isName m hm
    · rwa [List.mem_singleton.1 hm]

/-- So is what stands directly below the root. -/
theorem of_root (htop : t.resolve root = .ok top) (hdir : t.isDirectory top = true) {n : String}
    (hname : Path.IsName n) : Met t root top (root.join n) [] n := by
  refine ⟨rfl, by simpa using htop, by simpa using hdir, fun m hm => ?_⟩
  rwa [List.mem_singleton.1 hm]

/-- Paths are met in every tree with the same directories and links. -/
theorem of_sameFrame {t' : FileTree} (h : Met t root top p names s) (hframe : SameFrame t t') :
    Met t' root top p names s where
  path := h.path
  front := resolve_of_sameFrame hframe h.front h.directory
  directory := by rw [hframe.directory, h.directory]
  isName := h.isName

end Met

theorem isName_of_mem_names (hwell : t.WellFormed) {l : Location} {n : String}
    (h : n ∈ t.names l) : Path.IsName n :=
  hwell.isName (mem_names.1 h) n (by simp)

/-! ### What is met -/

/-- The files that a search meets, by what stands at the first path. -/
theorem files_search_cons (t : FileTree) (suffix : String) (fresh : List Location) (p : Path)
    (pending : List Path) :
    (search t suffix fresh (p :: pending)).files =
      match t.resolve p with
      | .error _ => (search t suffix fresh pending).files
      | .ok l =>
        if t.isDirectory l then
          if l ∈ fresh then (search t suffix (fresh.erase l) (children t p l ++ pending)).files
          else (search t suffix fresh pending).files
        else p :: (search t suffix fresh pending).files := by
  rw [search]
  cases hp : t.resolve p with
  | error e =>
    dsimp only
    split <;> rfl
  | ok l =>
    dsimp only
    by_cases hdir : t.isDirectory l = true
    · by_cases hfresh : l ∈ fresh
      · rw [if_pos hdir, if_pos hdir, dif_pos hfresh, if_pos hfresh, Found.files_underDirectory]
      · rw [if_pos hdir, if_pos hdir, dif_neg hfresh, if_neg hfresh]
    · rw [if_neg hdir, if_neg hdir, Found.files_underFile]

/-- **A search meets files that are there**, as long as there are no links below the root. -/
theorem met_files (hwell : t.WellFormed) (hlink : t.UnlinkedBelow top) {fresh : List Location}
    {pending : List Path} (hpending : ∀ p ∈ pending, ∃ names s, Met t root top p names s) :
    ∀ p ∈ (search t suffix fresh pending).files, ∃ names s content,
      Met t root top p names s ∧ Fits p s ∧
        t.get? (top ++ names ++ [s]) = some (.file content) := by
  -- pending paths lead to entries below the root, and the children of a directory do so again
  induction fresh, pending using search.induct t suffix with
  | case1 fresh => simp [search, Found.nothing]
  | case2 fresh p pending e hp hdest ih | case3 fresh p pending e hp hdest ih =>
    rw [files_search_cons]
    simp only [hp]
    exact ih fun q hq => hpending q (List.mem_cons_of_mem _ hq)
  | case4 fresh p pending l hp hdir hfresh hlt ih =>
    rw [files_search_cons]
    simp only [hp, hdir, hfresh, if_true]
    refine ih fun q hq => ?_
    rcases List.mem_append.1 hq with hq | hq
    · obtain ⟨n, hn, rfl⟩ := List.mem_map.1 hq
      obtain ⟨names, s, hmet⟩ := hpending p List.mem_cons_self
      exact ⟨names ++ [s], n, hmet.child hlink hp hdir (isName_of_mem_names hwell hn)⟩
    · exact hpending q (List.mem_cons_of_mem _ hq)
  | case5 fresh p pending l hp hdir hfresh ih =>
    rw [files_search_cons]
    simp only [hp, hdir, hfresh, if_true, if_false]
    exact ih fun q hq => hpending q (List.mem_cons_of_mem _ hq)
  | case6 fresh p pending l hp hdir ih =>
    rw [files_search_cons]
    simp only [hp, hdir, Bool.false_eq_true, if_false]
    intro q hq
    rcases List.mem_cons.1 hq with rfl | hq
    · obtain ⟨names, s, hmet⟩ := hpending q List.mem_cons_self
      obtain ⟨rfl, hfits, hget⟩ := hmet.of_resolve hlink hp
      obtain ⟨e, he⟩ := Option.ne_none_iff_exists'.1 hget
      cases e with
      | file content => exact ⟨names, s, content, hmet, hfits, he⟩
      | link target =>
        rw [List.append_assoc] at he
        exact absurd he (hlink _ (by simp) target)
      | directory => exact absurd (isDirectory_iff.2 he) hdir
    · exact ih (fun q hq => hpending q (List.mem_cons_of_mem _ hq)) q hq

/-! ### Nothing is met twice -/

/-- Neither path lies below the other. -/
def Apart (p q : Path) : Prop :=
  ¬ p.components <+: q.components ∧ ¬ q.components <+: p.components

theorem Apart.symm {p q : Path} (h : Apart p q) : Apart q p := ⟨h.2, h.1⟩

theorem Apart.components_ne {p q : Path} (h : Apart p q) : p.components ≠ q.components :=
  fun heq => h.1 (heq ▸ List.prefix_refl _)

/-- What lies below paths that are apart is apart. -/
theorem Apart.below {p q p' q' : Path} (h : Apart p q) (hp : p.components <+: p'.components)
    (hq : q.components <+: q'.components) : Apart p' q' := by
  constructor
  · intro hpq
    exact (List.prefix_or_prefix_of_prefix (hp.trans hpq) hq).elim h.1 h.2
  · intro hqp
    exact (List.prefix_or_prefix_of_prefix hp (hq.trans hqp)).elim h.1 h.2

/-- Two entries of a directory are apart. -/
theorem apart_join {n m : String} (hp : p.text ≠ "") (hn : Path.IsName n) (hm : Path.IsName m)
    (hne : n ≠ m) : Apart (p.join n) (p.join m) := by
  rw [Apart, Path.components_join hp hn, Path.components_join hp hm]
  simp [hne, Ne.symm hne]

/-- The entries of a directory are apart from each other, and lie below it. -/
theorem pairwise_apart_children (hwell : t.WellFormed) (hp : p.text ≠ "") (l : Location) :
    (children t p l).Pairwise Apart := by
  refine List.pairwise_map.2 ((nodup_names t l).imp_of_mem ?_)
  intro n m hn hm hne
  exact apart_join hp (isName_of_mem_names hwell hn) (isName_of_mem_names hwell hm) hne

theorem prefix_of_mem_children (hwell : t.WellFormed) (hp : p.text ≠ "") {l : Location} {q : Path}
    (hq : q ∈ children t p l) : p.components <+: q.components := by
  obtain ⟨n, hn, rfl⟩ := List.mem_map.1 hq
  rw [Path.components_join hp (isName_of_mem_names hwell hn)]
  exact List.prefix_append _ _

/-- The path is one of these, or lies below one of them. -/
def Below (pending : List Path) (f : Path) : Prop :=
  ∃ p ∈ pending, p.components <+: f.components

theorem Below.cons {pending : List Path} {f : Path} (h : Below pending f) (p : Path) :
    Below (p :: pending) f := by
  obtain ⟨q, hq, hqf⟩ := h
  exact ⟨q, List.mem_cons_of_mem _ hq, hqf⟩

/-- What lies below the entries of a directory lies below the directory. -/
theorem Below.of_children {pending cs : List Path} {f p : Path} (h : Below (cs ++ pending) f)
    (hcs : ∀ c ∈ cs, p.components <+: c.components) : Below (p :: pending) f := by
  obtain ⟨q, hq, hqf⟩ := h
  rcases List.mem_append.1 hq with hq | hq
  · exact ⟨p, List.mem_cons_self, (hcs q hq).trans hqf⟩
  · exact ⟨q, List.mem_cons_of_mem _ hq, hqf⟩

/-- **A search meets no file twice**, and only files below the pending paths. -/
theorem pairwise_apart_files (hwell : t.WellFormed) {fresh : List Location} {pending : List Path}
    (hpending : pending.Pairwise Apart) :
    (search t suffix fresh pending).files.Pairwise Apart ∧
      ∀ f ∈ (search t suffix fresh pending).files, Below pending f := by
  -- files below different pending paths are apart because these are, and children are apart again
  induction fresh, pending using search.induct t suffix with
  | case1 fresh => simp [search, Found.nothing]
  | case2 fresh p pending e hp hdest ih | case3 fresh p pending e hp hdest ih =>
    obtain ⟨hfiles, hbelow⟩ := ih (List.pairwise_cons.1 hpending).2
    rw [files_search_cons]
    simp only [hp]
    exact ⟨hfiles, fun f hf => (hbelow f hf).cons p⟩
  | case4 fresh p pending l hp hdir hfresh hlt ih =>
    obtain ⟨hhead, htail⟩ := List.pairwise_cons.1 hpending
    have hne := text_ne_empty_of_resolve hp
    have hchildren : ∀ c ∈ children t p l, p.components <+: c.components := fun c hc =>
      prefix_of_mem_children hwell hne hc
    obtain ⟨hfiles, hbelow⟩ := ih (List.pairwise_append.2
      ⟨pairwise_apart_children hwell hne l, htail, fun c hc q hq =>
        (hhead q hq).below (hchildren c hc) (List.prefix_refl _)⟩)
    rw [files_search_cons]
    simp only [hp, hdir, hfresh, if_true]
    exact ⟨hfiles, fun f hf => (hbelow f hf).of_children hchildren⟩
  | case5 fresh p pending l hp hdir hfresh ih =>
    obtain ⟨hfiles, hbelow⟩ := ih (List.pairwise_cons.1 hpending).2
    rw [files_search_cons]
    simp only [hp, hdir, hfresh, if_true, if_false]
    exact ⟨hfiles, fun f hf => (hbelow f hf).cons p⟩
  | case6 fresh p pending l hp hdir ih =>
    obtain ⟨hhead, htail⟩ := List.pairwise_cons.1 hpending
    obtain ⟨hfiles, hbelow⟩ := ih htail
    rw [files_search_cons]
    simp only [hp, hdir, Bool.false_eq_true, if_false]
    constructor
    · refine List.pairwise_cons.2 ⟨fun f hf => ?_, hfiles⟩
      obtain ⟨q, hq, hqf⟩ := hbelow f hf
      exact (hhead q hq).below (List.prefix_refl _) hqf
    · intro f hf
      rcases List.mem_cons.1 hf with rfl | hf
      · exact ⟨f, List.mem_cons_self, List.prefix_refl _⟩
      · exact (hbelow f hf).cons p

end

/-! ### Templates -/

/-- The template of a stem, in the directory to which names below the root lead, and its output next
to it. -/
structure Sited (t : FileTree) (root : Path) (top : Location) (suffix : String) (job : Job)
    (names : List String) (stem : String) : Prop where
  met : Met t root top job.source names (stem ++ ("." ++ suffix))
  stem_ne : stem ≠ ""
  destination : job.destination = job.source.withFileName stem
  fits : Fits job.source (stem ++ ("." ++ suffix))
  isFile : ∃ content, t.get? (top ++ names ++ [stem ++ ("." ++ suffix)]) = some (.file content)

theorem jobOf?_eq_some {suffix : String} {p : Path} {job : Job} {n : String}
    (hn : p.fileName? = some n) :
    jobOf? suffix p = some job ↔
      ∃ stem, (n = stem ++ ("." ++ suffix) ∧ stem ≠ "") ∧ job = ⟨p, p.withFileName stem⟩ := by
  simp only [← stemOf?_eq_some, jobOf?, destinationFor, hn]
  cases hstem : stemOf? suffix n with
  | none => simp [hstem]
  | some stem => simp [hstem, eq_comm]

theorem source_of_jobOf? {suffix : String} {p : Path} {job : Job}
    (h : jobOf? suffix p = some job) : job.source = p := by
  obtain ⟨d, -, rfl⟩ := Option.map_eq_some_iff.1 h
  rfl

section

variable {t : FileTree} {root : Path} {suffix : String} {d : Discovery}

/-- A discovery goes over everything below the root. -/
theorem discover_eq_ok (h : discover t root suffix = .ok d) :
    ∃ top fresh, t.resolve root = .ok top ∧ t.isDirectory top = true ∧
      d.jobs = ((search t suffix fresh (children t root top)).files.mergeSort
        Path.precedes).filterMap (jobOf? suffix) := by
  unfold discover searchBelow listing at h
  cases htop : t.resolve root with
  | error e => simp [htop, bind, Except.bind] at h
  | ok top =>
    cases hdir : t.isDirectory top with
    | false => simp [htop, hdir, bind, Except.bind, throw, throwThe, MonadExceptOf.throw] at h
    | true =>
      simp only [htop, hdir, bind, Except.bind, pure, Except.pure, if_true,
        Found.files_underDirectory, Except.ok.injEq] at h
      exact ⟨top, _, rfl, hdir, by rw [← h]⟩

/-- **The templates of a run are files below the root** whose names have the suffix. -/
theorem sited_of_discover (hwell : t.WellFormed) {top : Location} (htop : t.resolve root = .ok top)
    (hlink : t.UnlinkedBelow top) (h : discover t root suffix = .ok d) :
    ∀ job ∈ d.jobs, ∃ names stem, Sited t root top suffix job names stem := by
  obtain ⟨top', fresh, htop', hdir, hjobs⟩ := discover_eq_ok h
  obtain rfl : top' = top := by simpa [htop] using htop'.symm
  intro job hjob
  rw [hjobs] at hjob
  obtain ⟨p, hp, hpjob⟩ := List.mem_filterMap.1 hjob
  have hpending : ∀ q ∈ children t root top', ∃ names s, Met t root top' q names s := by
    intro q hq
    obtain ⟨n, hn, rfl⟩ := List.mem_map.1 hq
    exact ⟨[], n, .of_root htop hdir (isName_of_mem_names hwell hn)⟩
  obtain ⟨names, s, content, hmet, hfits, hget⟩ :=
    met_files hwell hlink hpending p (List.mem_mergeSort.1 hp)
  have hname : p.fileName? = some s := by
    rw [hmet.path_eq_join]
    exact Path.fileName?_join hmet.isName_last
  obtain ⟨stem, ⟨rfl, hne⟩, rfl⟩ := (jobOf?_eq_some hname).1 hpjob
  exact ⟨names, stem, hmet, hne, rfl, hfits, content, hget⟩

/-- **Each template comes once**, and they are in the order of their paths. -/
theorem pairwise_of_discover (hwell : t.WellFormed) (h : discover t root suffix = .ok d) :
    d.jobs.Pairwise fun a b =>
      a.source.precedes b.source = true ∧ a.source.components ≠ b.source.components := by
  obtain ⟨top, fresh, htop, hdir, hjobs⟩ := discover_eq_ok h
  have hapart : (search t suffix fresh (children t root top)).files.Pairwise Apart :=
    (pairwise_apart_files hwell
      (pairwise_apart_children hwell (text_ne_empty_of_resolve htop) top)).1
  have hsorted : ((search t suffix fresh (children t root top)).files.mergeSort
      Path.precedes).Pairwise Apart :=
    ((List.mergeSort_perm _ _).pairwise_iff Apart.symm).2 hapart
  rw [hjobs]
  refine ((Path.pairwise_mergeSort_precedes _).and hsorted).filterMap _ ?_
  rintro p q ⟨hprecedes, hpq⟩ a ha b hb
  rw [source_of_jobOf? ha, source_of_jobOf? hb]
  exact ⟨hprecedes, hpq.components_ne⟩

/-! ### Directories without subdirectories -/

theorem resolve_of_isFile {p : Path} (h : t.isFile p = true) :
    ∃ l, t.resolve p = .ok l ∧ t.isDirectory l = false := by
  unfold isFile entry at h
  cases hl : t.resolve p with
  | error e => simp [hl, bind, Except.bind] at h
  | ok l =>
    refine ⟨l, rfl, ?_⟩
    simp only [hl, bind, Except.bind, pure, Except.pure, throw, throwThe, MonadExceptOf.throw] at h
    cases hget : t.get? l with
    | none => simp [hget] at h
    | some e => cases e <;> simp_all [isDirectory, Entry.isDirectory]

/-- A search among files meets them all. -/
theorem search_of_isFile {fresh : List Location} {pending : List Path}
    (h : ∀ p ∈ pending, t.isFile p = true) :
    search t suffix fresh pending = ⟨[], pending, []⟩ := by
  induction pending with
  | nil =>
    rw [search]
    rfl
  | cons p pending ih =>
    obtain ⟨l, hl, hdir⟩ := resolve_of_isFile (h p List.mem_cons_self)
    rw [search]
    simp only [hl, hdir, Bool.false_eq_true, if_false]
    rw [ih fun q hq => h q (List.mem_cons_of_mem _ hq)]
    rfl

/-- What is found below a root in which there are files only, listed in order. -/
theorem discover_of_isFile {top : Location} {jobs : List Job} (htop : t.resolve root = .ok top)
    (hdir : t.isDirectory top = true)
    (hnames : (t.entries.keys.filterMap (nameIn top)).Pairwise fun a b => a ≤ b)
    (hfiles : ∀ p ∈ (t.entries.keys.filterMap (nameIn top)).map root.join, t.isFile p = true)
    (hpaths : ((t.entries.keys.filterMap (nameIn top)).map root.join).Pairwise
      fun p q => p.precedes q = true)
    (hjobs : ((t.entries.keys.filterMap (nameIn top)).map root.join).filterMap (jobOf? suffix) =
      jobs) : discover t root suffix = .ok ⟨jobs, []⟩ := by
  unfold discover searchBelow listing children
  simp only [htop, hdir, bind, Except.bind, pure, Except.pure, if_true, names_of_pairwise hnames,
    search_of_isFile hfiles]
  simp only [Found.underDirectory, List.mergeSort_of_pairwise hpaths, hjobs]

end

end Compile

end JellyViews
