/-
**Compiling twice.**

A run in a plain tree leaves the tree in a state that it does not change any more.  A second run
finds the same templates and the same tags, as the outputs of the first one are neither templates
nor do they declare tags.  Each template is rendered from the same source, and its output either has
the text already or fails to be written for the same reason.

A preview after a run renders the same texts, too.  It can only show changes of outputs that could
not be written.

Main definitions:

* `Compile.Harmless` — discoveries whose outputs are neither templates nor declare tags;
* `Compile.Report.again` — the report of a second run;
* `Compile.AfterRun` — what there is after a run.

Main results:

* `Compile.AfterRun.grown` — a run lets the tree grow by outputs;
* `Compile.AfterRun.prepare_final` — a second run finds the same templates and tags;
* `Compile.AfterRun.compileJob_final` — **each template fares as before, and changes nothing**;
* `Compile.AfterRun.preview_final` — what a preview shows after a run;
* `Compile.compile_again` — **a second run changes nothing**;
* `Compile.compile_again_settled` — a tree with an output and a failure;
* `Compile.compile_lone` — a template whose temporary file has too long a name;
* `Compile.preview_overlong` — a preview shows its output after the run.
-/

import JellyViews.Proofs.Compile.Differences
import JellyViews.Proofs.Compile.Rediscovery

set_option relaxedAutoImplicit false
set_option autoImplicit false

namespace JellyViews

/-! ### The file that declares tags -/

namespace Extension

/-- The tags that there are depend on this file only. -/
theorem registryFor_congr {t t' : FileTree} {root : Path}
    (h : t'.entry (pathIn root) = t.entry (pathIn root)) :
    registryFor t' root = registryFor t root := by
  have hfile : t'.isFile (pathIn root) = t.isFile (pathIn root) := by
    rw [FileTree.isFile, FileTree.isFile, h]
  have hload : load t' (pathIn root) = load t (pathIn root) := by
    rw [load, load, FileTree.readText, FileTree.readText, h]
  rw [registryFor, registryFor, detect, detect, hfile, hload]

theorem isName_fileName : Path.IsName fileName := by decide

end Extension

namespace Compile

open FileTree

/-! ### Outputs that do no harm -/

/-- No output of a template is a template itself, or the file that declares tags. -/
structure Harmless (root : Path) (suffix : String) (d : Discovery) : Prop where
  template : ∀ job ∈ d.jobs, destinationFor job.destination suffix = none
  extension : ∀ job ∈ d.jobs, job.destination.components ≠ (Extension.pathIn root).components

section

variable {t final : FileTree} {root : Path} {top : Location} {suffix : String} {plan : Plan}
  {report : Report} {job : Job} {names : List String} {stem : String}

/-- The stem of an output that was written is no name of a template, and the output is not the file
that declares tags. -/
theorem Harmless.of_output? (hharmless : Harmless root suffix plan.discovery)
    (hroot : root.text ≠ "") (hjob : job ∈ plan.discovery.jobs)
    (h : Sited t root top suffix job names stem) {f : Location × String}
    (hout : plan.output? false t job = some f) :
    stemOf? suffix stem = none ∧ ¬ (names = [] ∧ stem = Extension.fileName) := by
  obtain ⟨-, -, -, hidle, hup, -⟩ := h.output?_eq_some hout
  have hdenotes := h.denotes_destination hroot hidle hup
  constructor
  · have hnone := hharmless.template job hjob
    cases hstem : stemOf? suffix stem with
    | none => rfl
    | some s => simp [destinationFor, hdenotes.fileName?_eq, hstem] at hnone
  · rintro ⟨rfl, rfl⟩
    refine hharmless.extension job hjob ?_
    rw [hdenotes.components, Extension.pathIn,
      Path.components_join hroot Extension.isName_fileName]
    simp

end

/-- What becomes of a template in a second run: an output that has its text is unchanged. -/
def again : Except Failure Result → Except Failure Result
  | .ok x => .ok ⟨.unchanged, x.path⟩
  | .error f => .error f

/-- The report of a second run. -/
def Report.again (report : Report) : Report :=
  { report with results := report.results.map fun x => ⟨.unchanged, x.path⟩ }

theorem resultOf?_again (r : Except Failure Result) :
    resultOf? (again r) = (resultOf? r).map fun x => ⟨.unchanged, x.path⟩ := by
  cases r <;> rfl

theorem failureOf?_again (r : Except Failure Result) : failureOf? (again r) = failureOf? r := by
  cases r <;> rfl

/-- A template that is not compiled for show is written or unchanged if it succeeds. -/
theorem Sited.status_separate {t : FileTree} {root : Path} {top : Location} {suffix : String}
    {job : Job} {names : List String} {stem : String}
    (h : Sited t root top suffix job names stem) (hlink : t.UnlinkedBelow top) {plan : Plan}
    {x : Result} (hok : plan.separate false t job = .ok x) :
    x = ⟨.written, job.destination⟩ ∨ x = ⟨.unchanged, job.destination⟩ := by
  have hcases := h.compiled hlink (.refl t) plan false
  rw [Plan.separate] at hok
  generalize plan.compileJob false t job = r at hcases hok
  cases hcases with
  | unrendered f hrender => simp at hok
  | persisted text r hrender hpersist =>
    cases hpersist with
    | unchanged | written => simp_all [Plan.reportOf]
    | refused | undone => simp [Plan.reportOf] at hok

/-! ### After a run -/

/-- What there is after a run in a plain tree whose outputs do no harm. -/
structure AfterRun (plan : Plan) (t final : FileTree) (root : Path) (top : Location)
    (suffix : String) (report : Report) : Prop where
  wellFormed : t.WellFormed
  wellFormed_final : final.WellFormed
  frame : SameFrame t final
  prepared : prepare t root suffix = .ok plan
  resolve : t.resolve root = .ok top
  unlinked : t.UnlinkedBelow top
  jobs : ∀ job ∈ plan.discovery.jobs, ∃ names stem, Sited t root top suffix job names stem
  plain : ∀ names n, t.get? (top ++ names ++ [n]) ≠ none → ¬ IsTemporary n
  runs : plan.RunsSeparately false t final top report
  reported : report = plan.report ⟨suffix, false, false⟩ (plan.run ⟨suffix, false, false⟩ t).2
  harmless : Harmless root suffix plan.discovery

theorem afterRun_compile {t : FileTree} {root : Path} {suffix : String} (hwell : t.WellFormed)
    (hplain : Plain t root suffix)
    (hharmless : ∀ d, discover t root suffix = .ok d → Harmless root suffix d) {report : Report}
    (h : (compile t root ⟨suffix, false, false⟩).2 = .ok report) :
    ∃ plan top,
      AfterRun plan t (compile t root ⟨suffix, false, false⟩).1 root top suffix report := by
  obtain ⟨plan, top, hprepare, htop, hruns⟩ := compile_separate hwell hplain h
  have hlink : ∀ top, t.resolve root = .ok top → t.UnlinkedBelow top := fun _ => hplain.unlinked
  obtain ⟨top', htop', -, hjobs, -⟩ := sited_of_prepare hwell hlink hprepare
  obtain rfl : top = top' := by simpa [htop] using htop'
  have hcompile : compile t root ⟨suffix, false, false⟩ = _ := compile_of_prepare hprepare
  exact ⟨plan, top,
    { wellFormed := hwell
      wellFormed_final := (wellFormed_compile hwell hlink).1
      frame := by
        rw [hcompile]
        exact sameFrame_runAll hjobs (hlink top htop) (.refl t) plan _
      prepared := hprepare
      resolve := htop
      unlinked := hlink top htop
      jobs := hjobs
      plain := fun names n => hplain.names htop
      runs := hruns
      reported := by
        rw [hcompile] at h
        exact (Except.ok.inj h).symm
      harmless := hharmless _ (prepare_eq_ok hprepare).1 }⟩

namespace AfterRun

variable {plan : Plan} {t final : FileTree} {root : Path} {top : Location} {suffix : String}
  {report : Report} {job : Job} {names : List String} {stem : String}
  (h : AfterRun plan t final root top suffix report)

include h

theorem root_ne : root.text ≠ "" := text_ne_empty_of_resolve h.resolve

theorem discovered : discover t root suffix = .ok plan.discovery := (prepare_eq_ok h.prepared).1

/-- A location has changed only if it is the output of a template that was written. -/
theorem get?_eq {l : Location}
    (hl : ∀ job ∈ plan.discovery.jobs, ∀ names stem f, Sited t root top suffix job names stem →
      plan.output? false t job = some f → l ≠ top ++ names ++ [stem]) :
    final.get? l = t.get? l := by
  rw [h.runs.tree]
  refine get?_withFiles_of_not_mem (Plan.outputs_ne_nil h.jobs) fun hmem => ?_
  obtain ⟨⟨l', text⟩, hf, rfl⟩ := List.mem_map.1 hmem
  obtain ⟨job, hjob, hout⟩ := List.mem_filterMap.1 hf
  obtain ⟨names, stem, hsited⟩ := h.jobs job hjob
  exact hl job hjob names stem _ hsited hout (hsited.output?_eq_some hout).1

/-- A place for a template is as it was, as outputs are no templates. -/
theorem get?_of_stem {dir : Location} {n : String} (hn : stemOf? suffix n ≠ none) :
    final.get? (dir ++ [n]) = t.get? (dir ++ [n]) := by
  refine h.get?_eq fun job hjob names stem f hsited hout heq => hn ?_
  obtain ⟨-, hlast⟩ := List.append_inj' heq rfl
  obtain rfl : n = stem := by simpa using hlast
  exact (h.harmless.of_output? h.root_ne hjob hsited hout).1

/-- An output that was written has its text. -/
theorem get?_output (hjob : job ∈ plan.discovery.jobs) {l : Location} {text : String}
    (hout : plan.output? false t job = some (l, text)) :
    final.get? l = some (.file (encode text)) := by
  rw [h.runs.tree]
  exact get?_withFiles_of_mem (Plan.outputs_ne_nil h.jobs) h.runs.nodup
    (List.mem_filterMap.2 ⟨job, hjob, hout⟩)

/-! ### The second discovery -/

/-- **A run lets the tree grow by outputs**, which are no templates. -/
theorem grown : Grown t final suffix where
  frame := h.frame
  directories := by
    rw [h.runs.tree]
    refine directories_withFiles (Plan.outputs_ne_nil h.jobs) ?_
    rintro ⟨l, text⟩ hf
    obtain ⟨job, hjob, hout⟩ := List.mem_filterMap.1 hf
    rw [← h.frame.directory]
    exact isDirectory_of_file (h.get?_output hjob hout)
  kept {l} hget := by
    by_cases hl : ∃ job ∈ plan.discovery.jobs, ∃ text, plan.output? false t job = some (l, text)
    · obtain ⟨job, hjob, text, hout⟩ := hl
      simp [h.get?_output hjob hout]
    · rwa [h.get?_eq]
      rintro job hjob names stem ⟨l', text⟩ hsited hout heq
      obtain ⟨rfl, -⟩ := hsited.output?_eq_some hout
      exact hl ⟨job, hjob, text, heq ▸ hout⟩
  added {dir n} hnone hget := by
    by_contra hstem
    exact hget ((h.get?_of_stem hstem).trans hnone)

theorem discover_final : discover final root suffix = .ok plan.discovery :=
  discover_of_grown h.grown h.wellFormed h.wellFormed_final
    (fun top htop => by
      obtain rfl : _ = top := Except.ok.inj (h.resolve.symm.trans htop)
      exact h.unlinked) h.discovered

/-- The file that declares tags is as it was. -/
theorem registryFor_final : Extension.registryFor final root = Extension.registryFor t root := by
  have hdir : t.isDirectory top = true := by
    obtain ⟨top', -, htop', hdir, -⟩ := discover_eq_ok h.discovered
    obtain rfl := Except.ok.inj (h.resolve.symm.trans htop')
    exact hdir
  have hname := Extension.isName_fileName
  have hleads : t.Leads (Extension.pathIn root) top Extension.fileName :=
    Leads.join h.resolve hdir hname.noSlash
  have hlink : t.Unlinked (top ++ [Extension.fileName]) := h.unlinked _ (by simp)
  have hget : final.get? (top ++ [Extension.fileName]) = t.get? (top ++ [Extension.fileName]) := by
    refine h.get?_eq fun job hjob names stem f hsited hout heq => ?_
    have heq : top ++ [] ++ [Extension.fileName] = top ++ names ++ [stem] := by simpa using heq
    obtain ⟨hnames, hstem⟩ := location_eq_iff.1 heq
    exact (h.harmless.of_output? h.root_ne hjob hsited hout).2 ⟨hnames.symm, hstem.symm⟩
  refine Extension.registryFor_congr ?_
  rw [(hleads.of_sameFrame h.frame).entry_of_name hname.notIdle hname.2.2 (h.frame.unlinked hlink),
    hleads.entry_of_name hname.notIdle hname.2.2 hlink, entryAt, entryAt, hget]

/-- **A second run finds the same templates and tags.** -/
theorem prepare_final : prepare final root suffix = .ok plan := by
  rw [← h.prepared, prepare, prepare, h.discover_final, h.discovered, h.registryFor_final]

/-! ### The second run -/

/-- The source of a template is as it was. -/
theorem get?_source (hsited : Sited t root top suffix job names stem) :
    final.get? (top ++ names ++ [stem ++ ("." ++ suffix)]) =
      t.get? (top ++ names ++ [stem ++ ("." ++ suffix)]) :=
  h.get?_of_stem (by simp [stemOf?_eq_some.2 ⟨rfl, hsited.stem_ne⟩])

theorem render_final (hsited : Sited t root top suffix job names stem) :
    plan.render final job = plan.render t job :=
  hsited.render_eq h.unlinked h.frame plan (h.get?_source hsited)

/-- The output of a template that was not written is as it was. -/
theorem get?_unwritten (hjob : job ∈ plan.discovery.jobs)
    (hsited : Sited t root top suffix job names stem) (hout : plan.output? false t job = none) :
    final.get? (top ++ names ++ [stem]) = t.get? (top ++ names ++ [stem]) := by
  refine h.get?_eq fun other hother names' stem' f hsited' hout' heq => ?_
  have hne : ¬ job.source.components ≠ other.source.components := fun hne =>
    hsited.ne_of_components_ne hsited' h.root_ne hne (location_eq_iff.1 heq)
  obtain rfl := eq_of_components_eq h.wellFormed h.discovered hjob hother (not_not.1 hne)
  simp [hout] at hout'

/-- **Each template fares as it did before, and changes nothing.** -/
theorem compileJob_final (hjob : job ∈ plan.discovery.jobs) :
    plan.compileJob false final job = (final, again (plan.separate false t job)) := by
  obtain ⟨names, stem, hsited⟩ := h.jobs job hjob
  cases hout : plan.output? false t job with
  | some f =>
    -- the output was written, and has the text already
    obtain ⟨-, hrender, hwritten, -⟩ := hsited.output?_eq_some hout
    obtain ⟨text, hrender', hread⟩ := h.runs.written job hjob hwritten
    rw [Plan.compileJob_of_ok ((h.render_final hsited).trans hrender'),
      persist_of_readText hread, hwritten]
    rfl
  | none =>
    have htemp : ∀ u : FileTree,
        (∀ names n, u.get? (top ++ names ++ [n]) ≠ none → ¬ IsTemporary n) →
          u.get? (top ++ names ++ [temporaryName stem]) = none := fun u hu =>
      Classical.byContradiction fun hget => hu _ _ hget (isTemporary_temporaryName stem)
    have hsame := hsited.compileJob_eq_separate h.wellFormed h.unlinked h.frame
      ⟨h.get?_source hsited, h.get?_unwritten hjob hsited hout,
        htemp final fun _ _ => h.runs.temporary⟩ (htemp t h.plain) plan false
    rw [hsame, hout]
    cases hseparate : plan.separate false t job with
    | error f => rfl
    | ok x =>
      rcases hsited.status_separate h.unlinked hseparate with rfl | rfl
      · obtain ⟨text, hsome⟩ := hsited.exists_output? h.unlinked hseparate
        simp [hout] at hsome
      · rfl

/-- **The second run reports what the first one did**, but for outputs that are written already. -/
theorem compile_final :
    compile final root ⟨suffix, false, false⟩ = (final, .ok report.again) := by
  have houtcome : ∀ job ∈ plan.discovery.jobs,
      plan.outcome ⟨suffix, false, false⟩ ⟨final, job⟩ = again (plan.separate false t job) :=
    fun job hjob => congrArg Prod.snd (h.compileJob_final hjob)
  have hrun : plan.run ⟨suffix, false, false⟩ final = _ := runAll_of_still rfl
    fun job hjob => congrArg Prod.fst (h.compileJob_final hjob)
  have hresults : (plan.discovery.jobs.filterMap fun job =>
      resultOf? (plan.outcome ⟨suffix, false, false⟩ ⟨final, job⟩)) = report.again.results := by
    rw [Report.again, h.runs.results, List.map_filterMap]
    refine List.filterMap_congr fun job hjob => ?_
    rw [houtcome job hjob, resultOf?_again]
  have hfailures : (plan.discovery.jobs.filterMap fun job =>
      failureOf? (plan.outcome ⟨suffix, false, false⟩ ⟨final, job⟩)) =
        plan.discovery.jobs.filterMap fun job => failureOf? (plan.separate false t job) := by
    refine List.filterMap_congr fun job hjob => ?_
    rw [houtcome job hjob, failureOf?_again]
  have hagain : plan.report ⟨suffix, false, false⟩ ⟨report.again.results,
      plan.discovery.jobs.filterMap fun job => failureOf? (plan.separate false t job), []⟩ =
        report.again := by
    rw [Plan.report, ← h.runs.failures, Report.again, Report.mk.injEq]
    exact ⟨by rw [h.reported]; rfl, by rw [h.reported]; rfl, by rw [h.reported]; rfl,
      h.runs.complete.symm, rfl, rfl⟩
  rw [compile_of_prepare h.prepare_final, hrun, hresults, hfailures]
  exact congrArg (fun r => (final, Except.ok r)) hagain

/-- **After a run, a preview shows changes only where an output could not be written.** -/
theorem preview_final :
    ∃ pre, preview final root suffix = .ok pre ∧
      ∀ c ∈ pre.changes, ∃ source e, Failure.ofWriting source c.path e ∈ report.failures := by
  refine ⟨plan.previewOf final, preview_of_prepare h.prepare_final, fun c hc => ?_⟩
  obtain ⟨job, hjob, hchange⟩ := List.mem_filterMap.1 hc
  have hcompared := compared_compareJob plan final job
  generalize plan.compareJob final job = x at hcompared hchange
  generalize plan.separate true final job = y at hcompared
  cases hcompared with
  | unrendered | unchanged | blank | unreadable => simp [changeOf?] at hchange
  | changed text diff hrender hread =>
    obtain rfl : ⟨job.destination, diff⟩ = c := by simpa [changeOf?] using hchange
    have hsecond := congrArg Prod.snd (h.compileJob_final hjob)
    rw [Plan.compileJob_of_ok hrender] at hsecond
    cases hseparate : plan.separate false t job with
    | ok x =>
      -- the output would have the text
      rw [hseparate] at hsecond
      have hunchanged := (Plan.reportOf_eq_ok.1 hsecond).1
      exact absurd ((persist_unchanged_iff final job.destination text false).1 hunchanged) hread
    | error f =>
      rw [hseparate] at hsecond
      obtain ⟨e, -, rfl⟩ := Plan.reportOf_eq_error.1 hsecond
      refine ⟨job.source, e, ?_⟩
      rw [h.runs.failures]
      exact List.mem_append_right _ (List.mem_filterMap.2 ⟨job, hjob, by simp [hseparate]⟩)

end AfterRun

/-- **A second run changes nothing.**  It finds the same templates, reports the same failures, and
each output that was written or unchanged is unchanged.  A preview then shows changes of outputs
that could not be written, and no others. -/
theorem compile_again {t : FileTree} {root : Path} {suffix : String} (hwell : t.WellFormed)
    (hplain : Plain t root suffix)
    (hharmless : ∀ d, discover t root suffix = .ok d → Harmless root suffix d) :
    ∃ final outcome, compile t root ⟨suffix, false, false⟩ = (final, outcome) ∧
      discover final root suffix = discover t root suffix ∧
      compile final root ⟨suffix, false, false⟩ = (final, outcome.map Report.again) ∧
      ∀ report, outcome = .ok report → ∃ pre, preview final root suffix = .ok pre ∧
        ∀ c ∈ pre.changes, ∃ source e, Failure.ofWriting source c.path e ∈ report.failures := by
  rcases hcompile : compile t root ⟨suffix, false, false⟩ with ⟨final, outcome⟩
  refine ⟨final, outcome, rfl, ?_⟩
  cases houtcome : outcome with
  | error e =>
    have hresult : (compile t root ⟨suffix, false, false⟩).2 = .error e := by
      rw [hcompile, houtcome]
    obtain rfl : final = t := by
      have hsame := compile_error hresult
      rwa [hcompile] at hsame
    exact ⟨rfl, by rw [hcompile, houtcome]; rfl, by simp⟩
  | ok report =>
    have hresult : (compile t root ⟨suffix, false, false⟩).2 = .ok report := by
      rw [hcompile, houtcome]
    obtain ⟨plan, top, h⟩ := afterRun_compile hwell hplain hharmless hresult
    rw [hcompile] at h
    refine ⟨h.discover_final.trans h.discovered.symm, h.compile_final, ?_⟩
    rintro r hr
    obtain rfl := Except.ok.inj hr
    exact h.preview_final

/-! ### A tree with an output and a failure -/

/-- Two templates, of which the second uses a variable that there is not. -/
def settled : FileTree :=
  ⟨.ofList [(["root"], .directory), (["root", "a.tera"], .file (encode "one")),
    (["root", "b.tera"], .file (encode "\x7b\x7b nothing \x7d\x7d"))], []⟩

/-- The templates of `settled`. -/
def settledJobs : List Job :=
  [⟨⟨"root/a.tera"⟩, ⟨"root/a"⟩⟩, ⟨⟨"root/b.tera"⟩, ⟨"root/b"⟩⟩]

theorem discover_settled : discover settled ⟨"root"⟩ "tera" = .ok ⟨settledJobs, []⟩ :=
  discover_of_isFile rfl (by decide +kernel) (by decide +kernel) (by decide +kernel)
    (by decide +kernel) (by decide +kernel)

/-- The first template of `settled` is written in the first run and unchanged in the second, and the
second template fails in both. -/
theorem compile_again_settled :
    ∃ report final, compile settled ⟨"root"⟩ ⟨"tera", false, false⟩ = (final, .ok report) ∧
      compile final ⟨"root"⟩ ⟨"tera", false, false⟩ = (final, .ok report.again) ∧
      report.results = [⟨.written, ⟨"root/a"⟩⟩] ∧
      report.again.results = [⟨.unchanged, ⟨"root/a"⟩⟩] ∧
      report.failures.map Failure.source = [⟨"root/b.tera"⟩] ∧
      report.again.failures = report.failures := by
  have hprepare := prepare_of_isFile discover_settled (by decide +kernel)
  have hcompile : compile settled ⟨"root"⟩ ⟨"tera", false, false⟩ = _ :=
    compile_of_prepare hprepare
  have hharmless : Harmless ⟨"root"⟩ "tera" ⟨settledJobs, []⟩ :=
    ⟨by decide +kernel, by decide +kernel⟩
  obtain ⟨final, outcome, hfirst, -, hsecond, -⟩ :=
    compile_again (wellFormed_of_entries (by decide +kernel))
      (plain_of_entries (by decide +kernel) discover_settled (by decide +kernel))
      fun d hd => (Except.ok.inj (discover_settled.symm.trans hd)) ▸ hharmless
  obtain ⟨rfl, rfl⟩ := Prod.mk.inj (hcompile.symm.trans hfirst)
  exact ⟨_, _, hfirst, hsecond, by decide +kernel, by decide +kernel, by decide +kernel, rfl⟩

/-! ### A name that is too long -/

/-- A directory with one file. -/
def lone (name : String) : FileTree :=
  ⟨.ofList [(["root"], .directory), (["root", name], .file (encode "one"))], []⟩

section

variable {name s stem : String}

theorem entries_lone (name : String) : (lone name).entries.entries =
    [(["root"], .directory), (["root", name], .file (encode "one"))] := rfl

theorem get?_lone (name s : String) : (lone name).get? ["root", s] =
    if name = s then some (.file (encode "one")) else none := by
  simp [FileTree.get?, OrderedMap.get?, entries_lone, Entries.find]

theorem resolve_lone (name : String) : (lone name).resolve ⟨"root"⟩ = .ok ["root"] := rfl

theorem unlinkedBelow_lone (name : String) (l : Location) : (lone name).UnlinkedBelow l :=
  unlinkedBelow_of_entries (by simp [entries_lone, Entry.isLink]) l

theorem wellFormed_lone (hname : Path.IsName name) : (lone name).WellFormed := by
  have hroot : Path.IsName "root" := by decide
  refine wellFormed_of_entries fun e he => ?_
  rw [entries_lone] at he
  simp only [List.mem_cons, List.not_mem_nil, or_false] at he
  rcases he with rfl | rfl
  · exact ⟨by simp [hroot], rfl⟩
  · exact ⟨by simp [hroot, hname], rfl⟩

theorem leads_lone (hs : Path.IsName s) : (lone name).Leads (Path.join ⟨"root"⟩ s) ["root"] s :=
  Leads.join (resolve_lone name) rfl hs.noSlash

theorem entry_lone (hs : Path.IsName s) (hfits : Fits (Path.join ⟨"root"⟩ s) s) :
    (lone name).entry (Path.join ⟨"root"⟩ s) = (lone name).entryAt ["root", s] := by
  have hlink := unlinkedBelow_lone name ["root"] [s] (by simp)
  exact ((leads_lone hs).entry_of_name hs.notIdle hs.2.2 hlink).trans (if_pos hfits)

theorem readText_lone (hs : Path.IsName s) (hfits : Fits (Path.join ⟨"root"⟩ s) s) :
    (lone name).readText (Path.join ⟨"root"⟩ s) = (lone name).textAt ["root", s] := by
  have hlink := unlinkedBelow_lone name ["root"] [s] (by simp)
  exact ((leads_lone hs).readText_of_name hs.notIdle hs.2.2 hlink).trans (if_pos hfits)

/-- The template of `lone`. -/
def loneJob (name stem : String) : Job := ⟨Path.join ⟨"root"⟩ name, Path.join ⟨"root"⟩ stem⟩

theorem discover_lone (hname : Path.IsName name) (hstem : Path.IsName stem)
    (hsuffix : name = stem ++ ("." ++ "tera")) (hfits : Fits (Path.join ⟨"root"⟩ name) name) :
    discover (lone name) ⟨"root"⟩ "tera" = .ok ⟨[loneJob name stem], []⟩ := by
  have hkeys : (lone name).entries.keys.filterMap (nameIn ["root"]) = [name] := by
    simp [OrderedMap.keys, entries_lone, nameIn]
  have hdestination : (Path.join ⟨"root"⟩ name).withFileName stem = Path.join ⟨"root"⟩ stem := by
    apply Path.ext_segments
    rw [Path.segments_withFileName (Path.segments_join _ hname.noSlash) hname.notIdle hstem.noSlash,
      Path.segments_join _ hstem.noSlash]
    rfl
  have hjob : jobOf? "tera" (Path.join ⟨"root"⟩ name) = some (loneJob name stem) :=
    (jobOf?_eq_some (Path.fileName?_join hname)).2
      ⟨stem, ⟨hsuffix, Path.ne_empty_of_notIdle hstem.notIdle⟩, by rw [hdestination, loneJob]⟩
  have hfile : (lone name).isFile (Path.join ⟨"root"⟩ name) = true := by
    rw [FileTree.isFile, entry_lone hname hfits, entryAt, get?_lone, if_pos rfl]
  exact discover_of_isFile (resolve_lone name) rfl (by simp [hkeys]) (by simp [hkeys, hfile])
    (by simp [hkeys]) (by simp [hkeys, hjob])

theorem plain_lone {d : Discovery} (hd : discover (lone name) ⟨"root"⟩ "tera" = .ok d)
    (hname : ¬ IsTemporary name) (hjobs : ∀ job ∈ d.jobs, ¬ IsTemporary job.destination.text) :
    Plain (lone name) ⟨"root"⟩ "tera" := by
  have hroot : ¬ IsTemporary "root" := by decide
  exact plain_of_entries (by simp [entries_lone, Entry.isLink, hroot, hname]) hd hjobs

theorem prepare_lone {d : Discovery} (hd : discover (lone name) ⟨"root"⟩ "tera" = .ok d)
    (hname : name ≠ Extension.fileName) :
    prepare (lone name) ⟨"root"⟩ "tera" = .ok ⟨⟨"root"⟩, Tag.Registry.standard, d⟩ := by
  refine prepare_of_isFile hd ?_
  rw [Extension.pathIn, FileTree.isFile, entry_lone Extension.isName_fileName (by decide), entryAt,
    get?_lone, if_neg hname]

theorem harmless_lone (hstem : Path.IsName stem) (htera : ¬ ".tera".toList <:+ stem.toList)
    (hextension : stem ≠ Extension.fileName) :
    Harmless ⟨"root"⟩ "tera" ⟨[loneJob name stem], []⟩ where
  template job hjob := by
    obtain rfl : job = loneJob name stem := by simpa using hjob
    have hnone : stemOf? "tera" stem = none := by
      by_contra hsome
      obtain ⟨s, hs⟩ := Option.ne_none_iff_exists'.1 hsome
      refine htera ⟨s.toList, ?_⟩
      rw [(stemOf?_eq_some.1 hs).1]
      simp
    simp [destinationFor, loneJob, Path.fileName?_join hstem, hnone]
  extension job hjob := by
    obtain rfl : job = loneJob name stem := by simpa using hjob
    rw [loneJob, Path.components_join (by decide) hstem, Extension.pathIn,
      Path.components_join (by decide) Extension.isName_fileName]
    simpa using hextension

/-- The run over `lone` if the name of the temporary file is too long. -/
theorem compile_lone (hname : Path.IsName name) (hstem : Path.IsName stem)
    (hfits : Fits (Path.join ⟨"root"⟩ name) name) (hne : name ≠ stem)
    (hshort : Fits (Path.join ⟨"root"⟩ stem) stem)
    (hlong : ¬ Fits (temporaryFor (Path.join ⟨"root"⟩ stem)) (temporaryName stem))
    (hprepare : prepare (lone name) ⟨"root"⟩ "tera" =
      .ok ⟨⟨"root"⟩, Tag.Registry.standard, [loneJob name stem], []⟩) :
    ∃ report pre, compile (lone name) ⟨"root"⟩ ⟨"tera", false, false⟩ = (lone name, .ok report) ∧
      preview (lone name) ⟨"root"⟩ "tera" = .ok pre ∧ pre.changes ≠ [] := by
  let plan : Plan := ⟨⟨"root"⟩, Tag.Registry.standard, [loneJob name stem], []⟩
  have hrender : plan.render (lone name) (loneJob name stem) = .ok "one" := by
    have hread : (lone name).readText (loneJob name stem).source = .ok "one" := by
      rw [loneJob, readText_lone hname hfits, textAt, get?_lone, if_pos rfl]
      exact decode_encode "one"
    rw [Plan.render, hread]
    rfl
  have hmissing : (lone name).readText (loneJob name stem).destination = .error .missing := by
    rw [loneJob, readText_lone hstem hshort, textAt, get?_lone, if_neg hne]
  have hread : (lone name).readText (loneJob name stem).destination ≠ .ok "one" := by
    simp [hmissing]
  have hpersist : persist (lone name) (loneJob name stem).destination "one" false =
      (lone name, .error .nameTooLong) :=
    persist_of_not_fits (leads_lone hstem) (Path.ne_empty_of_notIdle hstem.notIdle)
      (unlinkedBelow_lone name ["root"] [temporaryName stem] (by simp)) hlong hread
  have hstill : ∀ job ∈ plan.discovery.jobs,
      plan.after ⟨"tera", false, false⟩ ⟨lone name, job⟩ = lone name := by
    intro job hjob
    obtain rfl : job = loneJob name stem := by simpa [plan] using hjob
    exact congrArg Prod.fst ((Plan.compileJob_of_ok hrender false).trans (by rw [hpersist]))
  have hrun : plan.run ⟨"tera", false, false⟩ (lone name) = _ := runAll_of_still rfl hstill
  refine ⟨_, _, (compile_of_prepare hprepare).trans (by rw [hrun]), preview_of_prepare hprepare, ?_⟩
  obtain ⟨c, hc, -⟩ := change_of_missing List.mem_cons_self hrender (by decide) hmissing
  exact List.ne_nil_of_mem hc

end

/-- A name that is short enough, while the name of the temporary file is not. -/
def longName : String := String.ofList (List.replicate 241 'a')

theorem eq_of_mem_longName {c : Char} (h : c ∈ longName.toList) : c = 'a' :=
  List.eq_of_mem_replicate ((congrArg (c ∈ ·) String.toList_ofList).mp h)

theorem isName_longName : Path.IsName longName :=
  ⟨fun h => absurd (eq_of_mem_longName h) (by decide), by decide +kernel, by decide +kernel⟩

theorem isName_longName_tera : Path.IsName (longName ++ ".tera") := by
  refine ⟨?_, by decide +kernel, by decide +kernel⟩
  rw [String.toList_append, List.mem_append]
  rintro (h | h)
  · exact absurd (eq_of_mem_longName h) (by decide)
  · revert h
    decide

theorem not_isTemporary_longName (a : String) : ¬ IsTemporary (a ++ longName) := by
  intro h
  rcases h.of_append with h | h
  · have hlength : longName.toList.length = 241 :=
      (congrArg List.length String.toList_ofList).trans List.length_replicate
    have hle := h.length_le
    rw [hlength] at hle
    revert hle
    decide
  · exact absurd (eq_of_mem_longName (h.subset (by decide : '.' ∈ temporarySuffix.toList)))
      (by decide)

/-- The output `longName` cannot be written, and the preview after the run shows it still. -/
theorem preview_overlong :
    ¬ ∀ (t final : FileTree) (root : Path) (suffix : String) (report : Report) (pre : Preview),
      t.WellFormed → Plain t root suffix →
      (∀ d, discover t root suffix = .ok d → Harmless root suffix d) →
      compile t root ⟨suffix, false, false⟩ = (final, .ok report) →
      preview final root suffix = .ok pre → pre.changes = [] := by
  intro h
  have hname := isName_longName_tera
  have hstem := isName_longName
  have hfits : Fits (Path.join ⟨"root"⟩ (longName ++ ".tera")) (longName ++ ".tera") := by
    decide +kernel
  have hdiscover := discover_lone hname hstem rfl hfits
  have hprepare := prepare_lone hdiscover (by decide +kernel)
  obtain ⟨report, pre, hcompile, hpreview, hchanges⟩ := compile_lone hname hstem hfits
    (by decide +kernel) (by decide +kernel) (by decide +kernel) hprepare
  refine hchanges (h _ _ _ _ _ _ (wellFormed_lone hname) (plain_lone hdiscover ?_ ?_) ?_ hcompile
    hpreview)
  · intro htemp
    exact absurd htemp.of_append (by decide)
  · intro job hjob
    obtain rfl : job = loneJob (longName ++ ".tera") longName := by simpa using hjob
    exact not_isTemporary_longName ("root" ++ "/")
  · intro d hd
    obtain rfl := Except.ok.inj (hdiscover.symm.trans hd)
    refine harmless_lone hstem (fun htera => ?_) (by decide +kernel)
    exact absurd (eq_of_mem_longName (htera.subset (by decide : '.' ∈ ".tera".toList))) (by decide)

end Compile

end JellyViews
