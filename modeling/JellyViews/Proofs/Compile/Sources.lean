/-
**What becomes of the sources.**

A run reads its templates and should leave them as they are.  It does so unless a template has an
output, or a temporary file, of the same path: outputs are called like templates if the name of a
template goes on behind that of another one, and a template may be called like a temporary file.
Then the last template that touched the source decides what is left of it.

Main results:

* `Compile.compile_source_iff` — **a source is as it was exactly if the last trial that touched it
  left it so**;
* `Compile.compile_source_camouflaged` — a source that is lost;
* `Compile.compile_source_of_apart` — hence a source is as it was if it is neither an output nor a
  temporary file.
-/

import JellyViews.Proofs.Compile.Course

set_option relaxedAutoImplicit false
set_option autoImplicit false

namespace JellyViews

namespace Compile

open FileTree

section

variable {t : FileTree} {root : Path} {options : Options} {d : Discovery} {job : Job}

theorem getD_eq_iff {α : Type} {o : Option α} {a : α} : o.getD a = a ↔ ∀ b, o = some b → b = a := by
  cases o <;> simp

/-- What the source of a template stands for at the end is what the last trial left that touched
it. -/
theorem entry_source_of_prepare (hwell : t.WellFormed)
    (hlink : ∀ top, t.resolve root = .ok top → t.UnlinkedBelow top) {plan : Plan}
    (hplan : prepare t root options.suffix = .ok plan) (hjob : job ∈ plan.discovery.jobs) :
    (compile t root options).1.entry job.source =
      (plan.lastLeft? options job.source (plan.tried options t)).getD (t.entry job.source) := by
  obtain ⟨top, htop, hroot, hjobs, -⟩ := sited_of_prepare hwell hlink hplan
  obtain ⟨names, stem, hsited⟩ := hjobs job hjob
  obtain ⟨content, hfile⟩ := hsited.isFile
  rw [compile_of_prepare hplan]
  exact (course_run plan options t).entry_final hroot (hlink top htop)
    (sited_of_mem_tried hjobs options t) (.refl t) (hsited.denotes_source hroot) hsited.fits
    (isDirectory_of_file hfile)

/-- **A source is as it was exactly if the last trial that touched it left it so**; a run that is
given up before its first trial leaves everything as it was. -/
theorem compile_source_iff (hwell : t.WellFormed)
    (hlink : ∀ top, t.resolve root = .ok top → t.UnlinkedBelow top)
    (hd : discover t root options.suffix = .ok d) (hjob : job ∈ d.jobs) :
    ∃ content, t.entry job.source = .ok (.file content) ∧
      ((compile t root options).1.entry job.source = .ok (.file content) ↔
        ∀ plan, prepare t root options.suffix = .ok plan →
          ∀ left, plan.lastLeft? options job.source (plan.tried options t) = some left →
            left = .ok (.file content)) := by
  obtain ⟨top, fresh, htop, -, -⟩ := discover_eq_ok hd
  obtain ⟨names, stem, hsited⟩ := sited_of_discover hwell htop (hlink top htop) hd job hjob
  obtain ⟨content, hfile⟩ := hsited.isFile
  have hentry : t.entry job.source = .ok (.file content) := by
    rw [(hsited.denotes_source (text_ne_empty_of_resolve htop)).entry_eq (hlink top htop)
      hsited.fits, entryAt, hfile]
  refine ⟨content, hentry, ?_⟩
  cases hprepare : prepare t root options.suffix with
  | error e =>
    -- nothing was tried, and nothing has changed
    rw [compile_of_prepare_error hprepare]
    simp [hentry]
  | ok plan =>
    obtain ⟨hdiscover, -⟩ := prepare_eq_ok hprepare
    obtain rfl : plan.discovery = d := by simpa [hdiscover] using hd
    rw [entry_source_of_prepare hwell hlink hprepare hjob, hentry, getD_eq_iff]
    constructor
    · rintro h plan' hplan'
      obtain rfl := Except.ok.inj hplan'
      exact h
    · exact fun h => h plan rfl

/-- Two templates with the suffix `tmp`, of which the first is called like the temporary file of the
second. -/
def camouflaged : FileTree :=
  ⟨.ofList [(["root"], .directory), (["root", "a.jellyforge.tmp"], .file (encode "first")),
    (["root", "a.tmp"], .file (encode "second"))], []⟩

/-- The templates of `camouflaged`. -/
def camouflagedJobs : List Job :=
  [⟨⟨"root/a.jellyforge.tmp"⟩, ⟨"root/a.jellyforge"⟩⟩, ⟨⟨"root/a.tmp"⟩, ⟨"root/a"⟩⟩]

theorem discover_camouflaged : discover camouflaged ⟨"root"⟩ "tmp" = .ok ⟨camouflagedJobs, []⟩ :=
  discover_of_isFile rfl (by decide +kernel) (by decide +kernel) (by decide +kernel)
    (by decide +kernel) (by decide +kernel)

/-- The first template of `camouflaged` is lost: the last trial that touched it left nothing. -/
theorem compile_source_camouflaged :
    ∃ content, camouflaged.entry ⟨"root/a.jellyforge.tmp"⟩ = .ok (.file content) ∧
      (compile camouflaged ⟨"root"⟩ ⟨"tmp", false, false⟩).1.entry ⟨"root/a.jellyforge.tmp"⟩ ≠
        .ok (.file content) ∧
      ∃ plan left, prepare camouflaged ⟨"root"⟩ "tmp" = .ok plan ∧
        plan.lastLeft? ⟨"tmp", false, false⟩ ⟨"root/a.jellyforge.tmp"⟩
          (plan.tried ⟨"tmp", false, false⟩ camouflaged) = some left ∧
        left ≠ .ok (.file content) := by
  have hprepare := prepare_of_isFile discover_camouflaged (by decide +kernel)
  have hcompile : compile camouflaged ⟨"root"⟩ ⟨"tmp", false, false⟩ = _ :=
    compile_of_prepare hprepare
  obtain ⟨content, hentry, hiff⟩ := @compile_source_iff camouflaged ⟨"root"⟩ ⟨"tmp", false, false⟩
    _ ⟨⟨"root/a.jellyforge.tmp"⟩, ⟨"root/a.jellyforge"⟩⟩ (wellFormed_of_entries (by decide +kernel))
    (fun top _ => unlinkedBelow_of_entries (by decide +kernel) top) discover_camouflaged
    List.mem_cons_self
  have hlost : (compile camouflaged ⟨"root"⟩ ⟨"tmp", false, false⟩).1.entry
      ⟨"root/a.jellyforge.tmp"⟩ ≠ .ok (.file content) := by
    rw [hcompile]
    exact ne_ok_of_isOk (by decide +kernel) _
  refine ⟨content, hentry, hlost, ?_⟩
  have hwhy := fun hall => hlost (hiff.2 hall)
  simpa using hwhy

/-- A source that is neither the output nor the temporary file of a template is as it was. -/
theorem compile_source_of_apart (hwell : t.WellFormed)
    (hlink : ∀ top, t.resolve root = .ok top → t.UnlinkedBelow top)
    (hd : discover t root options.suffix = .ok d) (hjob : job ∈ d.jobs)
    (hapart : ∀ other ∈ d.jobs, other.destination.components ≠ job.source.components ∧
      (temporaryFor other.destination).components ≠ job.source.components) :
    (compile t root options).1.entry job.source = t.entry job.source := by
  cases hprepare : prepare t root options.suffix with
  | error e => rw [compile_of_prepare_error hprepare]
  | ok plan =>
    obtain ⟨hdiscover, -⟩ := prepare_eq_ok hprepare
    obtain rfl : plan.discovery = d := by simpa [hdiscover] using hd
    have hnone : plan.lastLeft? options job.source (plan.tried options t) = none := by
      refine List.findSome?_eq_none_iff.2 fun x hx => ?_
      have hmem : x.job ∈ plan.discovery.jobs :=
        (jobs_tried plan options t).subset (List.mem_map_of_mem (List.mem_reverse.1 hx))
      obtain ⟨houtput, htemp⟩ := hapart x.job hmem
      simp [Plan.left?, Plan.Clears, houtput, htemp]
    rw [entry_source_of_prepare hwell hlink hprepare hjob, hnone]
    rfl

end

end Compile

end JellyViews
