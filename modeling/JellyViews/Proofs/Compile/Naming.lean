/-
**Names of templates.**

A run knows a template by its path relative to the root, with a slash for every backslash.  Under
this name the template is rendered, its faults are reported, and it knows itself.  Relative to the
root, different templates have different paths, which lead back to them from the root.  The names do
the same, with one exception: where backslashes are parts of names, another file may have the name
that comes of turning them.

Main definitions:

* `Compile.Named` — paths of names below a root.

Main results:

* `Compile.named_of_discover` — **templates are named below the root**, wherever links lead;
* `Compile.evaluate_template`, `Compile.of_evaluate_error` — what the name of a template is for;
* `Compile.source_names` — **which templates their names lead back to**;
* `Compile.source_names_crossed` — two templates with the same name.
-/

import JellyViews.Compile.Run
import JellyViews.Proofs.Compile.Traversal
import JellyViews.Proofs.Path.Relative

set_option relaxedAutoImplicit false
set_option autoImplicit false

namespace JellyViews

namespace Compile

open FileTree

/-! ### Paths below the root -/

/-- The path goes over names from the root on, at least one. -/
def Named (root p : Path) : Prop :=
  ∃ names, names ≠ [] ∧ (∀ n ∈ names, Path.IsName n) ∧ p = root.below names

section

variable {t : FileTree} {root p : Path} {suffix : String} {d : Discovery}

/-- Entries of the root, and of directories below it, are named. -/
theorem named_of_mem_children {names : List String} {l : Location} (hwell : t.WellFormed)
    (hnames : ∀ n ∈ names, Path.IsName n) (h : p ∈ children t (root.below names) l) :
    Named root p := by
  obtain ⟨n, hn, rfl⟩ := List.mem_map.1 h
  refine ⟨names ++ [n], by simp, fun m hm => ?_, (Path.below_concat root names n).symm⟩
  rcases List.mem_append.1 hm with hm | hm
  · exact hnames m hm
  · exact List.mem_singleton.1 hm ▸ isName_of_mem_names hwell hn

/-- A search among named paths finds named files, whatever links it follows. -/
theorem Searches.named {fresh : List Location} {pending : List Path} {found : Found}
    (hwell : t.WellFormed) (h : Searches t suffix fresh pending found)
    (hpending : ∀ p ∈ pending, Named root p) : ∀ p ∈ found.files, Named root p := by
  induction h with
  | done fresh => simp [Found.nothing]
  | unreadable _ _ _ ih | ignored _ _ _ ih | again _ _ _ _ ih =>
    exact ih fun p hp => hpending p (List.mem_cons_of_mem _ hp)
  | directory _ _ _ _ ih =>
    refine ih fun p hp => ?_
    rcases List.mem_append.1 hp with hp | hp
    · obtain ⟨names, -, hnames, rfl⟩ := hpending _ List.mem_cons_self
      exact named_of_mem_children hwell hnames hp
    · exact hpending p (List.mem_cons_of_mem _ hp)
  | file _ _ _ ih =>
    intro p hp
    rcases List.mem_cons.1 hp with rfl | hp
    · exact hpending p List.mem_cons_self
    · exact ih (fun q hq => hpending q (List.mem_cons_of_mem _ hq)) p hp

/-- The jobs of a discovery are those of files that are named below the root. -/
theorem named_of_discover (hwell : t.WellFormed) (hd : discover t root suffix = .ok d) :
    root.text ≠ "" ∧
      ∀ job ∈ d.jobs, Named root job.source ∧ jobOf? suffix job.source = some job := by
  obtain ⟨top, fresh, htop, -, hjobs⟩ := discover_eq_ok hd
  refine ⟨text_ne_empty_of_resolve htop, fun job hjob => ?_⟩
  rw [hjobs] at hjob
  obtain ⟨p, hp, hpjob⟩ := List.mem_filterMap.1 hjob
  have hchildren : ∀ q ∈ children t (root.below []) top, Named root q := fun q hq =>
    named_of_mem_children hwell (by simp) hq
  have hnamed := (searches_search t suffix fresh (children t root top)).named hwell hchildren p
    (List.mem_mergeSort.1 hp)
  rw [source_of_jobOf? hpjob]
  exact ⟨hnamed, hpjob⟩

end

/-! ### What the name is for -/

/-- A template that shows its own name. -/
def selfNaming : String := "\x7b\x7b template \x7d\x7d"

theorem parse_selfNaming :
    Template.parse selfNaming = some [.output (.variable "template")] := rfl

/-- It is rendered to the name under which the run knows it. -/
theorem evaluate_selfNaming (plan : Plan) (job : Job) :
    plan.evaluate job selfNaming = .ok (job.sourceName plan.root) := by
  have hrender : Template.render plan.registry (job.sourceName plan.root) selfNaming
      (plan.varsOf job) = .ok (job.sourceName plan.root ++ "") := by
    rw [Template.render, parse_selfNaming]
    rfl
  rw [Plan.evaluate, hrender, String.append_empty]

/-- The report on a template starts with its name. -/
theorem message_ofChain (name : String) (chain : Template.Chain) :
    ∃ rest, (RenderError.ofChain name chain).message = "template '" ++ name ++ "'" ++ rest := by
  have hquoted (colon more : String) :
      "template '" ++ name ++ ("'" ++ colon) ++ more =
        "template '" ++ name ++ "'" ++ (colon ++ more) := by
    simp only [String.append_assoc]
  unfold RenderError.ofChain RenderError.ofLinks
  split
  · rename_i e _
    exact ⟨": " ++ e.message, hquoted ": " e.message⟩
  · exact ⟨_, hquoted " failed: " _⟩

/-- So does the failure of a template that cannot be evaluated. -/
theorem of_evaluate_error {plan : Plan} {job : Job} {source : String} {f : Failure}
    (h : plan.evaluate job source = .error f) :
    f.source = job.source ∧
      ∃ rest, f.message = "template '" ++ job.sourceName plan.root ++ "'" ++ rest := by
  have hchain : ∃ chain, f = .ofRendering job.source
      (.ofChain (job.sourceName plan.root) chain) := by
    unfold Plan.evaluate Template.render at h
    split at h
    · cases h
    · rename_i e hrender
      obtain rfl := Except.error.inj h
      split at hrender
      · exact ⟨_, by rw [← Except.error.inj hrender]⟩
      · split at hrender
        · cases hrender
        · exact ⟨_, by rw [← Except.error.inj hrender]⟩
  obtain ⟨chain, rfl⟩ := hchain
  exact ⟨rfl, message_ofChain _ chain⟩

/-! ### Names that lead back -/

/-- **Which templates their names lead back to.**  The path of a template relative to the root leads
back to the template.  Its name is this path with backslashes turned into slashes, and leads back to
the template exactly if there are none; two templates with the same name are the same, unless there
is a backslash in one of their paths.  The name is what the template knows itself by, and what its
failures are reported under. -/
theorem source_names {t : FileTree} {root : Path} {suffix : String} {d : Discovery}
    (hwell : t.WellFormed) (hd : discover t root suffix = .ok d) :
    (∀ job ∈ d.jobs,
      let path := (job.source.relativeTo root).text
      root.lookedUp path = job.source ∧ job.sourceName root = Path.slashed path ∧
      ((root.lookedUp (job.sourceName root)).components = job.source.components ↔
        '\\' ∉ path.toList)) ∧
    (∀ job ∈ d.jobs, ∀ job' ∈ d.jobs, job.sourceName root = job'.sourceName root →
      job = job' ∨ '\\' ∈ (job.source.relativeTo root).text.toList ∨
        '\\' ∈ (job'.source.relativeTo root).text.toList) ∧
    ∀ registry, ∀ job ∈ d.jobs,
      let plan : Plan := ⟨root, registry, d⟩
      plan.evaluate job selfNaming = .ok (job.sourceName root) ∧
      ∀ source f, plan.evaluate job source = .error f → f.source = job.source ∧
        ∃ rest, f.message = "template '" ++ job.sourceName root ++ "'" ++ rest := by
  obtain ⟨hroot, hjobs⟩ := named_of_discover hwell hd
  have hback : ∀ job ∈ d.jobs, root.lookedUp (job.source.relativeTo root).text = job.source := by
    intro job hjob
    obtain ⟨⟨names, hne, hnames, hsource⟩, -⟩ := hjobs job hjob
    rw [hsource, Path.lookedUp_relativeTo_below hroot hne hnames]
  refine ⟨fun job hjob => ⟨hback job hjob, rfl, ?_⟩, fun job hjob job' hjob' hsame => ?_,
    fun registry job _ => ⟨evaluate_selfNaming _ job, fun source f => of_evaluate_error⟩⟩
  · obtain ⟨⟨names, hne, hnames, hsource⟩, -⟩ := hjobs job hjob
    rw [Job.sourceName, nameBelow, hsource]
    exact Path.lookedUp_slashed_iff hroot hne hnames
  · by_cases hjobBack : '\\' ∈ (job.source.relativeTo root).text.toList
    · exact .inr (.inl hjobBack)
    · by_cases hjobBack' : '\\' ∈ (job'.source.relativeTo root).text.toList
      · exact .inr (.inr hjobBack')
      · rw [Job.sourceName, Job.sourceName, nameBelow, nameBelow, Path.slashed_eq_self hjobBack,
          Path.slashed_eq_self hjobBack'] at hsame
        have hsource : job.source = job'.source := by
          rw [← hback job hjob, ← hback job' hjob', hsame]
        have hjob'' := (hjobs job hjob).2
        rw [hsource, (hjobs job' hjob').2] at hjob''
        exact .inl (Option.some.inj hjob'').symm

/-- A template in a directory, and one whose name has a backslash where the path of the other one
has a slash. -/
def crossed : FileTree :=
  ⟨.ofList [(["root"], .directory), (["root", "a"], .directory),
    (["root", "a", "b.tera"], .file (encode selfNaming)),
    (["root", "a\\b.tera"], .file (encode selfNaming))], []⟩

/-- The jobs of `crossed`. -/
def crossedJobs : List Job :=
  [⟨⟨"root/a/b.tera"⟩, ⟨"root/a/b"⟩⟩, ⟨⟨"root/a\\b.tera"⟩, ⟨"root/a\\b"⟩⟩]

theorem discover_crossed :
    ∃ d, discover crossed ⟨"root"⟩ "tera" = .ok d ∧ ∀ job ∈ crossedJobs, job ∈ d.jobs := by
  have hroot : crossed.resolve ⟨"root"⟩ = .ok ["root"] := rfl
  have ha : crossed.resolve ⟨"root/a"⟩ = .ok ["root", "a"] := rfl
  have hchildren : children crossed ⟨"root"⟩ ["root"] = [⟨"root/a"⟩, ⟨"root/a\\b.tera"⟩] := by
    rw [children, names_of_pairwise (by decide +kernel)]
    decide +kernel
  have hchildren' : children crossed ⟨"root/a"⟩ ["root", "a"] = [⟨"root/a/b.tera"⟩] := by
    rw [children, names_of_pairwise (by decide +kernel)]
    decide +kernel
  have hfiles : (search crossed "tera" (crossed.directories.erase ["root"])
      (children crossed ⟨"root"⟩ ["root"])).files = crossedJobs.map Job.source := by
    have hfile : ∀ p ∈ crossedJobs.map Job.source, crossed.isFile p = true := by decide +kernel
    rw [hchildren, files_search_cons, ha]
    dsimp only
    rw [if_pos (by decide +kernel), if_pos (by decide +kernel), hchildren']
    exact congrArg Found.files (search_of_isFile hfile)
  refine ⟨_, discover_of_searchBelow (searchBelow_of_listing
    (listing_of_resolve hroot (by decide +kernel)) "tera"), fun job hjob => ?_⟩
  have hjobOf : ∀ job ∈ crossedJobs, jobOf? "tera" job.source = some job := by decide +kernel
  refine List.mem_filterMap.2 ⟨job.source, List.mem_mergeSort.2 ?_, hjobOf job hjob⟩
  rw [Found.files_underDirectory, hfiles]
  exact List.mem_map_of_mem hjob

/-- Both templates have the name of the first one, which does not lead back to the second one. -/
theorem source_names_crossed :
    ∃ d, discover crossed ⟨"root"⟩ "tera" = .ok d ∧
      (∀ job ∈ crossedJobs, job ∈ d.jobs ∧ job.sourceName ⟨"root"⟩ = "a/b.tera" ∧
        ∀ registry, (Plan.mk ⟨"root"⟩ registry d).evaluate job selfNaming = .ok "a/b.tera") ∧
      (Path.lookedUp ⟨"root"⟩ "a/b.tera").components ≠ Path.components ⟨"root/a\\b.tera"⟩ := by
  obtain ⟨d, hd, hmem⟩ := discover_crossed
  have hname : ∀ job ∈ crossedJobs, job.sourceName ⟨"root"⟩ = "a/b.tera" := by decide +kernel
  obtain ⟨hback, -, hnames⟩ := source_names (wellFormed_of_entries (by decide +kernel)) hd
  refine ⟨d, hd, fun job hjob => ⟨hmem job hjob, hname job hjob, fun registry => ?_⟩,
    fun hsame => ?_⟩
  · obtain ⟨hevaluate, -⟩ := hnames registry job (hmem job hjob)
    rwa [hname job hjob] at hevaluate
  · have hjob : (⟨⟨"root/a\\b.tera"⟩, ⟨"root/a\\b"⟩⟩ : Job) ∈ crossedJobs := by decide
    obtain ⟨-, -, hiff⟩ := hback _ (hmem _ hjob)
    rw [hname _ hjob] at hiff
    exact absurd (by decide +kernel) (hiff.1 hsame)

end Compile

end JellyViews
