/-
**Previews and dry runs.**

A preview and a dry run find and render the same templates, and then compare the texts with the same
outputs, each in its own way.  A dry run asks whether the output has the text.  A preview takes a
missing output for an empty one, and gives up on a template whose output cannot be read for another
reason.  So a template that a preview passes over is one that a dry run finds unchanged, with one
exception: if a template has an empty text and its output is missing, there is nothing to preview,
and yet a run would write the output.

Main definitions:

* `Compile.Compared` — what a preview and a dry run say of one template;
* `Compile.Preview.Passes` — templates that a preview passes over.

Main results:

* `Compile.compared_compareJob` — **all that they can say of a template**;
* `Compile.compareAll_eq`, `Compile.runAll_dryRun` — templates in a row;
* `Compile.eq_of_destination_eq` — different templates have different outputs, wherever links lead;
* `Compile.preview_iff_dryRun` — **what a preview shows is what a dry run would write**, but for
  empty texts;
* `Compile.preview_blank` — a template with an empty text.
-/

import JellyViews.Compile.Preview
import JellyViews.Proofs.Compile.Course
import JellyViews.Proofs.Compile.Separate
import JellyViews.Proofs.Compile.Traversal
import Mathlib.Data.List.Nodup

set_option relaxedAutoImplicit false
set_option autoImplicit false

namespace JellyViews

namespace Compile

open FileTree

/-! ### One template -/

/-- The change that a comparison has found. -/
def changeOf? : Except Failure (Option Change) → Option Change
  | .ok change => change
  | .error _ => none

/-- The failure of a comparison, if it failed. -/
def uncompared? : Except Failure (Option Change) → Option Failure
  | .ok _ => none
  | .error f => some f

/-- What a preview and a dry run say of a template, by its text and by its output. -/
inductive Compared (plan : Plan) (t : FileTree) (job : Job) :
    Except Failure (Option Change) → Except Failure Result → Prop where
  | unrendered (f : Failure) (hrender : plan.render t job = .error f) :
      Compared plan t job (.error f) (.error f)
  | unchanged (text : String) (hrender : plan.render t job = .ok text)
      (hread : t.readText job.destination = .ok text) :
      Compared plan t job (.ok none) (.ok ⟨.unchanged, job.destination⟩)
  /-- The text is empty, and so is what a preview takes the missing output for. -/
  | blank (hrender : plan.render t job = .ok "")
      (hread : t.readText job.destination = .error .missing) :
      Compared plan t job (.ok none) (.ok ⟨.wouldWrite, job.destination⟩)
  | changed (text diff : String) (hrender : plan.render t job = .ok text)
      (hread : t.readText job.destination ≠ .ok text)
      (hblank : ¬ (text = "" ∧ t.readText job.destination = .error .missing)) :
      Compared plan t job (.ok (some ⟨job.destination, diff⟩)) (.ok ⟨.wouldWrite, job.destination⟩)
  | unreadable (text : String) (e : FileError) (hrender : plan.render t job = .ok text)
      (hread : t.readText job.destination = .error e) (he : e ≠ .missing) :
      Compared plan t job (.error (.ofComparing job.source job.destination e))
        (.ok ⟨.wouldWrite, job.destination⟩)

section

variable {plan : Plan} {t : FileTree} {root : Path} {suffix : String} {options : Options}
  {job : Job} {jobs : List Job}

theorem textOrEmpty_of_error {p : Path} {e : FileError} (h : t.readText p = .error e) :
    textOrEmpty t p = if e = .missing then .ok "" else .error e := by
  unfold textOrEmpty
  rw [h]
  cases e <;> rfl

theorem compareJob_of_ok {text existing : String} (hrender : plan.render t job = .ok text)
    (hexisting : textOrEmpty t job.destination = .ok existing) :
    plan.compareJob t job = .ok (plan.changeOf job existing text) := by
  simp only [Plan.compareJob, hrender, hexisting]

theorem separate_dryRun_of_ok {text : String} (hrender : plan.render t job = .ok text) :
    plan.separate true t job =
      .ok ⟨if t.readText job.destination = .ok text then .unchanged else .wouldWrite,
        job.destination⟩ := by
  rw [Plan.separate, Plan.compileJob_of_ok hrender, persist]
  by_cases hread : t.readText job.destination = .ok text
  · simp [holds_iff.2 hread, hread, Plan.reportOf]
  · have hholds : holds t job.destination text = false :=
      Bool.eq_false_iff.2 fun h => hread (holds_iff.1 h)
    simp [hholds, hread, Plan.reportOf]

/-- **All that a preview and a dry run can say of a template.** -/
theorem compared_compareJob (plan : Plan) (t : FileTree) (job : Job) :
    Compared plan t job (plan.compareJob t job) (plan.separate true t job) := by
  cases hrender : plan.render t job with
  | error f =>
    have hcompare : plan.compareJob t job = .error f := by simp only [Plan.compareJob, hrender]
    rw [hcompare, Plan.separate, Plan.compileJob_of_error hrender]
    exact .unrendered f hrender
  | ok text =>
    rw [separate_dryRun_of_ok hrender]
    cases hread : t.readText job.destination with
    | ok existing =>
      have hexisting : textOrEmpty t job.destination = .ok existing := by
        simp only [textOrEmpty, hread]
      rw [compareJob_of_ok hrender hexisting]
      by_cases hsame : existing = text
      · subst hsame
        rw [if_pos rfl, Plan.changeOf, if_pos rfl]
        exact .unchanged existing hrender hread
      · rw [if_neg (by simpa using hsame)]
        rw [Plan.changeOf, if_neg hsame]
        exact .changed text _ hrender (by simpa [hread] using hsame) (by simp [hread])
    | error e =>
      rw [if_neg (by simp)]
      by_cases hmissing : e = .missing
      · subst hmissing
        -- the preview compares with the empty text
        have hexisting : textOrEmpty t job.destination = .ok "" := by
          rw [textOrEmpty_of_error hread, if_pos rfl]
        rw [compareJob_of_ok hrender hexisting]
        by_cases hblank : "" = text
        · subst hblank
          rw [Plan.changeOf, if_pos rfl]
          exact .blank hrender hread
        · rw [Plan.changeOf, if_neg hblank]
          exact .changed text _ hrender (by simp [hread]) fun h => hblank h.1.symm
      · have hcompare : plan.compareJob t job =
            .error (.ofComparing job.source job.destination e) := by
          simp only [Plan.compareJob, hrender, textOrEmpty_of_error hread, if_neg hmissing]
        rw [hcompare]
        exact .unreadable text e hrender hread hmissing

theorem source_of_render {f : Failure} (h : plan.render t job = .error f) :
    f.source = job.source := by
  unfold Plan.render Plan.evaluate at h
  split at h
  · split at h
    · simp at h
    · obtain rfl := Except.error.inj h
      rfl
  · obtain rfl := Except.error.inj h
    rfl

namespace Compared

variable {x : Except Failure (Option Change)} {y : Except Failure Result}

/-- A change is one of the output, which a dry run would write. -/
theorem of_change (h : Compared plan t job x y) {c : Change} (hc : changeOf? x = some c) :
    c.path = job.destination ∧ y = .ok ⟨.wouldWrite, job.destination⟩ := by
  cases h with
  | unrendered | unchanged | blank | unreadable => simp [changeOf?] at hc
  | changed text diff =>
    obtain rfl : ⟨job.destination, diff⟩ = c := by simpa [changeOf?] using hc
    exact ⟨rfl, rfl⟩

/-- A failure is one of the source. -/
theorem of_failure (h : Compared plan t job x y) {f : Failure} (hf : uncompared? x = some f) :
    f.source = job.source := by
  cases h with
  | unchanged | blank | changed => simp [uncompared?] at hf
  | unrendered g hrender =>
    obtain rfl : g = f := by simpa [uncompared?] using hf
    exact source_of_render hrender
  | unreadable text e =>
    obtain rfl : Failure.ofComparing job.source job.destination e = f := by
      simpa [uncompared?] using hf
    rfl

/-- An output that is unchanged in a dry run has the text of its template, and a preview shows
nothing of it. -/
theorem of_unchanged (h : Compared plan t job x y) {p : Path}
    (hy : y = .ok ⟨.unchanged, p⟩) :
    p = job.destination ∧ x = .ok none ∧
      ∃ text, plan.render t job = .ok text ∧ t.readText job.destination = .ok text := by
  cases h with
  | unrendered | blank | changed | unreadable => simp at hy
  | unchanged text hrender hread =>
    obtain rfl : job.destination = p := by simpa using hy
    exact ⟨rfl, rfl, text, hrender, hread⟩

end Compared

/-! ### Templates in a row -/

/-- A preview says of each template what it says of it alone. -/
theorem compareAll_eq (plan : Plan) (t : FileTree) (jobs : List Job) :
    plan.compareAll t jobs =
      (jobs.filterMap fun job => changeOf? (plan.compareJob t job),
        jobs.filterMap fun job => uncompared? (plan.compareJob t job)) := by
  induction jobs with
  | nil => rfl
  | cons job jobs ih =>
    rw [Plan.compareAll, ih]
    rcases hcompare : plan.compareJob t job with f | _ | change <;>
      simp [hcompare, changeOf?, uncompared?]

theorem after_dryRun (hdry : options.dryRun = true) : plan.after options ⟨t, job⟩ = t := by
  rw [Plan.after, hdry]
  cases hrender : plan.render t job with
  | error f => rw [Plan.compileJob_of_error hrender]
  | ok text => rw [Plan.compileJob_of_ok hrender, persist_dryRun]

/-- So does a dry run, as it changes nothing from one template to the next. -/
theorem runAll_dryRun (hdry : options.dryRun = true) (hfast : options.failFast = false)
    (plan : Plan) (t : FileTree) (jobs : List Job) :
    plan.runAll options t jobs =
      (t, { results := jobs.filterMap fun job => resultOf? (plan.separate true t job)
            failures := jobs.filterMap fun job => failureOf? (plan.separate true t job)
            untried := [] }) := by
  have hout (job : Job) : plan.outcome options ⟨t, job⟩ = plan.separate true t job := by
    rw [Plan.outcome, Plan.separate, hdry]
  rw [runAll_of_still hfast fun job _ => after_dryRun hdry]
  simp only [hout]

/-- The failures of a dry run are those of a preview, without those of comparing. -/
theorem failures_dryRun (plan : Plan) (t : FileTree) (jobs : List Job) :
    (jobs.filterMap fun job => failureOf? (plan.separate true t job)) =
      (jobs.filterMap fun job => uncompared? (plan.compareJob t job)).filter
        fun f => f.kind ≠ .persist := by
  induction jobs with
  | nil => rfl
  | cons job jobs ih =>
    have hcompared := compared_compareJob plan t job
    rw [List.filterMap_cons, List.filterMap_cons]
    generalize plan.compareJob t job = x at hcompared
    generalize plan.separate true t job = y at hcompared
    cases hcompared with
    | unrendered f hrender =>
      simpa [failureOf?, uncompared?, Plan.kind_of_render hrender] using ih
    | unchanged | blank | changed => simpa [failureOf?, uncompared?] using ih
    | unreadable => simpa [failureOf?, uncompared?, Failure.ofComparing] using ih

/-! ### Different templates -/

/-- A template is an entry of a directory, and its output has the stem of its name. -/
theorem site_of_discover {d : Discovery} (hwell : t.WellFormed)
    (hd : discover t root suffix = .ok d) (hjob : job ∈ d.jobs) :
    ∃ (q : Path) (stem : String), Path.IsName (stem ++ ("." ++ suffix)) ∧
      job.source = q.join (stem ++ ("." ++ suffix)) ∧
      job.destination = job.source.withFileName stem ∧ t.isFile job.source = true := by
  obtain ⟨directories, h⟩ := traversal_of_discover hwell hd
  obtain ⟨p, hp, hpjob⟩ := List.mem_filterMap.1 (h.templates.mem_iff.1 hjob)
  obtain ⟨hentry, hfile⟩ := List.mem_filter.1 hp
  obtain ⟨q, -, hpq⟩ := List.mem_flatMap.1 hentry
  unfold entriesIn at hpq
  split at hpq
  · rename_i l names hlisting
    obtain ⟨n, hn, rfl⟩ := List.mem_map.1 hpq
    have hname : Path.IsName n := by
      obtain ⟨-, -, rfl⟩ := of_listing hlisting
      exact isName_of_mem_names hwell hn
    obtain ⟨stem, ⟨rfl, -⟩, rfl⟩ := (jobOf?_eq_some (Path.fileName?_join hname)).1 hpjob
    exact ⟨q, stem, hname, rfl, rfl, hfile⟩
  · simp at hpq

/-- Different templates have different sources. -/
theorem eq_of_components_eq {d : Discovery} {other : Job} (hwell : t.WellFormed)
    (hd : discover t root suffix = .ok d) (hjob : job ∈ d.jobs) (hother : other ∈ d.jobs)
    (h : job.source.components = other.source.components) : job = other := by
  have hnodup : (d.jobs.map fun j => j.source.components).Nodup :=
    List.pairwise_map.2 ((pairwise_of_discover hwell hd).imp fun hab => hab.2)
  exact List.inj_on_of_nodup_map hnodup hjob hother h

/-- **Different templates have different outputs**, wherever links lead. -/
theorem eq_of_destination_eq {d : Discovery} {other : Job} (hwell : t.WellFormed)
    (hd : discover t root suffix = .ok d) (hjob : job ∈ d.jobs) (hother : other ∈ d.jobs)
    (h : job.destination = other.destination) : job = other := by
  refine eq_of_components_eq hwell hd hjob hother ?_
  obtain ⟨q, stem, hname, hsource, hdest, -⟩ := site_of_discover hwell hd hjob
  obtain ⟨q', stem', hname', hsource', hdest', -⟩ := site_of_discover hwell hd hother
  have hslash (s : String) (hs : Path.IsName (s ++ ("." ++ suffix))) : '/' ∉ s.toList := fun hmem =>
    hs.noSlash (by simp [hmem])
  -- the outputs are the stems behind the directories of the sources, without idle segments
  have hsegments (q : Path) (s : String) (hs : Path.IsName (s ++ ("." ++ suffix))) :
      ((q.join (s ++ ("." ++ suffix))).withFileName s).segments = Path.trimmed q.inside ++ [s] :=
    Path.segments_withFileName (q.segments_join hs.noSlash) hs.notIdle (hslash s hs)
  have hcomponents (q : Path) (s : String) (hs : Path.IsName (s ++ ("." ++ suffix))) :
      (q.join (s ++ ("." ++ suffix))).components =
        Path.frontComponents (Path.trimmed q.inside) ++ [.name (s ++ ("." ++ suffix))] := by
    rw [Path.components_of_segments (q.segments_join hs.noSlash) hs.notIdle, hs.componentOf_eq,
      Path.frontComponents_trimmed]
  have heq : Path.trimmed q.inside ++ [stem] = Path.trimmed q'.inside ++ [stem'] := by
    rw [← hsegments q stem hname, ← hsegments q' stem' hname', ← hsource, ← hsource', ← hdest,
      ← hdest', h]
  obtain ⟨hfront, hlast⟩ := List.append_inj' heq rfl
  obtain rfl : stem = stem' := by simpa using hlast
  rw [hsource, hsource', hcomponents q stem hname, hcomponents q' stem hname', hfront]

theorem kind_of_unreadable {d : Discovery} (hwell : t.WellFormed)
    (hd : discover t root suffix = .ok d) {f : Failure} (hf : f ∈ d.unreadable) :
    f.kind = .read := by
  obtain ⟨directories, h⟩ := traversal_of_discover hwell hd
  obtain ⟨e, -, hfe⟩ := h.reason f hf
  rw [hfe]
  rfl

/-- An entry that could not be looked at is no template. -/
theorem source_ne_of_unreadable {d : Discovery} (hwell : t.WellFormed)
    (hd : discover t root suffix = .ok d) (hjob : job ∈ d.jobs) {f : Failure}
    (hf : f ∈ d.unreadable) : f.source ≠ job.source := by
  obtain ⟨directories, h⟩ := traversal_of_discover hwell hd
  obtain ⟨e, he, -⟩ := h.reason f hf
  obtain ⟨-, -, -, -, -, hfile⟩ := site_of_discover hwell hd hjob
  intro heq
  rw [heq] at he
  simp [isFile, he] at hfile

/-! ### Previews and dry runs -/

/-- A preview passes over a template: it shows no change of its output, and no failure. -/
structure Preview.Passes (pre : Preview) (job : Job) : Prop where
  change : ∀ c ∈ pre.changes, c.path ≠ job.destination
  failure : ∀ f ∈ pre.failures, f.source ≠ job.source

/-- The preview of a plan. -/
def Plan.previewOf (plan : Plan) (t : FileTree) : Preview :=
  ⟨plan.root, plan.discovery.jobs.filterMap fun job => changeOf? (plan.compareJob t job),
    plan.discovery.unreadable ++
      plan.discovery.jobs.filterMap fun job => uncompared? (plan.compareJob t job)⟩

/-- The report of a dry run of a plan. -/
def Plan.dryReport (plan : Plan) (options : Options) (t : FileTree) : Report :=
  plan.report options
    { results := plan.discovery.jobs.filterMap fun job =>
        resultOf? (plan.separate true t job)
      failures := plan.discovery.jobs.filterMap fun job =>
        failureOf? (plan.separate true t job)
      untried := [] }

/-- A preview shows the output of a template with a text if there is none yet. -/
theorem change_of_missing (hjob : job ∈ plan.discovery.jobs) {text : String}
    (hrender : plan.render t job = .ok text) (htext : text ≠ "")
    (hread : t.readText job.destination = .error .missing) :
    ∃ c ∈ (plan.previewOf t).changes, c.path = job.destination := by
  have hcompare := compareJob_of_ok hrender (textOrEmpty_of_error hread)
  rw [Plan.changeOf, if_neg htext.symm] at hcompare
  exact ⟨_, List.mem_filterMap.2 ⟨job, hjob, by rw [hcompare]; rfl⟩, rfl⟩

theorem preview_of_prepare (h : prepare t root suffix = .ok plan) :
    preview t root suffix = .ok (plan.previewOf t) := by
  unfold preview
  rw [h]
  simp only [bind, Except.bind, compareAll_eq, (prepare_eq_ok h).2.symm]
  rfl

theorem compile_dryRun_of_prepare (hdry : options.dryRun = true) (hfast : options.failFast = false)
    (h : prepare t root options.suffix = .ok plan) :
    compile t root options = (t, .ok (plan.dryReport options t)) := by
  have hrun : plan.run options t = plan.runAll options t plan.discovery.jobs := by
    simp [Plan.run, hfast]
  rw [compile_of_prepare h, hrun, runAll_dryRun hdry hfast]
  rfl

theorem mem_results_dryReport {r : Result} :
    r ∈ (plan.dryReport options t).results ↔
      ∃ job ∈ plan.discovery.jobs, plan.separate true t job = .ok r := by
  simp [Plan.dryReport, Plan.report, List.mem_filterMap, resultOf?_eq_some]

/-- A preview passes over a template exactly if it says nothing of it alone. -/
theorem passes_iff (hwell : t.WellFormed) (hd : discover t root suffix = .ok plan.discovery)
    (hjob : job ∈ plan.discovery.jobs) :
    (plan.previewOf t).Passes job ↔ plan.compareJob t job = .ok none := by
  have hcompared (other : Job) := compared_compareJob plan t other
  constructor
  · intro h
    rcases hcompare : plan.compareJob t job with f | _ | c
    · have hf : uncompared? (plan.compareJob t job) = some f := by simp [hcompare, uncompared?]
      exact absurd ((hcompared job).of_failure hf)
        (h.failure f (List.mem_append_right _ (List.mem_filterMap.2 ⟨job, hjob, hf⟩)))
    · rfl
    · have hc : changeOf? (plan.compareJob t job) = some c := by simp [hcompare, changeOf?]
      exact absurd ((hcompared job).of_change hc).1
        (h.change c (List.mem_filterMap.2 ⟨job, hjob, hc⟩))
  · intro h
    constructor
    case change =>
      -- a change of the same output is one of the same template
      intro c hc hpath
      obtain ⟨other, hother, hchange⟩ := List.mem_filterMap.1 hc
      obtain ⟨hc, -⟩ := (hcompared other).of_change hchange
      obtain rfl := eq_of_destination_eq hwell hd hother hjob (hc.symm.trans hpath)
      simp [h, changeOf?] at hchange
    case failure =>
      intro f hf hsource
      rcases List.mem_append.1 hf with hf | hf
      · exact source_ne_of_unreadable hwell hd hjob hf hsource
      · obtain ⟨other, hother, hfailure⟩ := List.mem_filterMap.1 hf
        have hsame := (hcompared other).of_failure hfailure
        obtain rfl := eq_of_components_eq hwell hd hother hjob (by rw [← hsame, hsource])
        simp [h, uncompared?] at hfailure

/-- A preview says nothing of a template alone if the output has its text, or if both are empty. -/
theorem compareJob_eq_none_iff {text : String} (hrender : plan.render t job = .ok text) :
    plan.compareJob t job = .ok none ↔ t.readText job.destination = .ok text ∨
      text = "" ∧ t.readText job.destination = .error .missing := by
  have hcompared := compared_compareJob plan t job
  generalize plan.compareJob t job = x at hcompared
  generalize plan.separate true t job = y at hcompared
  cases hcompared with
  | unrendered f hfail => simp [hfail] at hrender
  | unchanged text' hrender' hread =>
    obtain rfl : text' = text := by simpa [hrender] using hrender'.symm
    exact iff_of_true rfl (.inl hread)
  | blank hrender' hread =>
    obtain rfl : "" = text := by simpa [hrender] using hrender'.symm
    exact iff_of_true rfl (.inr ⟨rfl, hread⟩)
  | changed text' diff hrender' hread hblank =>
    obtain rfl : text' = text := by simpa [hrender] using hrender'.symm
    exact iff_of_false (by simp) (not_or.2 ⟨hread, hblank⟩)
  | unreadable text' e hrender' hread he => exact iff_of_false (by simp) (by simp [hread, he])

/-- An output is reported as unchanged exactly if it has the text of its template. -/
theorem unchanged_mem_results_iff (hwell : t.WellFormed)
    (hd : discover t root suffix = .ok plan.discovery) (hjob : job ∈ plan.discovery.jobs)
    {text : String} (hrender : plan.render t job = .ok text) (options : Options) :
    ⟨.unchanged, job.destination⟩ ∈ (plan.dryReport options t).results ↔
      t.readText job.destination = .ok text := by
  rw [mem_results_dryReport]
  constructor
  · rintro ⟨other, hother, hout⟩
    obtain ⟨hdest, -, text', hrender', hread⟩ :=
      (compared_compareJob plan t other).of_unchanged hout
    obtain rfl := eq_of_destination_eq hwell hd hjob hother hdest
    obtain rfl := Except.ok.inj (hrender.symm.trans hrender')
    exact hread
  · intro hread
    exact ⟨job, hjob, by rw [separate_dryRun_of_ok hrender, if_pos hread]⟩

/-- **What a preview shows is what a dry run would write**, but for one kind of templates: a preview
passes over the templates that a dry run finds unchanged, and over those that have an empty text and
no output.  Both fail alike, except that a preview also fails where it cannot read an output. -/
theorem preview_iff_dryRun (hwell : t.WellFormed) (hdry : options.dryRun = true)
    (hfast : options.failFast = false) :
    (∀ e, preview t root options.suffix = .error e ↔ (compile t root options).2 = .error e) ∧
      ∀ plan, prepare t root options.suffix = .ok plan → ∃ pre report,
        preview t root options.suffix = .ok pre ∧ (compile t root options).2 = .ok report ∧
        (∀ job ∈ plan.discovery.jobs, ∀ text, plan.render t job = .ok text →
          (pre.Passes job ↔ ⟨.unchanged, job.destination⟩ ∈ report.results ∨
            text = "" ∧ t.readText job.destination = .error .missing) ∧
          (⟨.unchanged, job.destination⟩ ∈ report.results →
            t.readText job.destination = .ok text)) ∧
        (∀ c ∈ pre.changes, ⟨.wouldWrite, c.path⟩ ∈ report.results) ∧
        report.failures = pre.failures.filter fun f => f.kind ≠ .persist := by
  constructor
  · intro e
    cases hprepare : prepare t root options.suffix with
    | error e' =>
      have hpreview : preview t root options.suffix = .error e' := by
        simp only [preview, hprepare]
        rfl
      simp [hpreview, compile_of_prepare_error hprepare]
    | ok plan =>
      simp [preview_of_prepare hprepare, compile_dryRun_of_prepare hdry hfast hprepare]
  · intro plan hprepare
    have hd := (prepare_eq_ok hprepare).1
    refine ⟨plan.previewOf t, plan.dryReport options t, preview_of_prepare hprepare,
      by rw [compile_dryRun_of_prepare hdry hfast hprepare], ?_, ?_, ?_⟩
    · intro job hjob text hrender
      have hunchanged := unchanged_mem_results_iff hwell hd hjob hrender options
      refine ⟨?_, hunchanged.1⟩
      rw [passes_iff hwell hd hjob, compareJob_eq_none_iff hrender, hunchanged]
    · intro c hc
      obtain ⟨job, hjob, hchange⟩ := List.mem_filterMap.1 hc
      obtain ⟨hpath, hout⟩ := (compared_compareJob plan t job).of_change hchange
      exact mem_results_dryReport.2 ⟨job, hjob, by rw [hout, hpath]⟩
    · have hunreadable : plan.discovery.unreadable.filter (fun f => f.kind ≠ .persist) =
          plan.discovery.unreadable :=
        List.filter_eq_self.2 fun f hf => by simp [kind_of_unreadable hwell hd hf]
      change plan.discovery.unreadable ++ _ = List.filter _ (plan.discovery.unreadable ++ _)
      rw [List.filter_append, hunreadable, failures_dryRun]

end

/-- A template without text, and no output. -/
def blank : FileTree :=
  ⟨.ofList [(["root"], .directory), (["root", "a.tera"], .file (encode ""))], []⟩

/-- The template of `blank`. -/
def blankJob : Job := ⟨⟨"root/a.tera"⟩, ⟨"root/a"⟩⟩

theorem discover_blank : discover blank ⟨"root"⟩ "tera" = .ok ⟨[blankJob], []⟩ :=
  discover_of_isFile rfl (by decide +kernel) (by decide +kernel) (by decide +kernel)
    (by decide +kernel) (by decide +kernel)

/-- A preview passes over the template of `blank`, and a run would write its output. -/
theorem preview_blank :
    ∃ pre report, preview blank ⟨"root"⟩ "tera" = .ok pre ∧
      (compile blank ⟨"root"⟩ ⟨"tera", true, false⟩).2 = .ok report ∧ pre.Passes blankJob ∧
      ⟨.unchanged, ⟨"root/a"⟩⟩ ∉ report.results := by
  have hprepare := prepare_of_isFile discover_blank (by decide +kernel)
  have hmissing : blank.readText ⟨"root/a"⟩ = .error .missing := by rfl
  obtain ⟨-, h⟩ := @preview_iff_dryRun blank ⟨"root"⟩ ⟨"tera", true, false⟩
    (wellFormed_of_entries (by decide +kernel)) rfl rfl
  obtain ⟨pre, report, hpre, hreport, hjobs, -⟩ := h _ hprepare
  obtain ⟨hpasses, hunchanged⟩ := hjobs blankJob List.mem_cons_self "" (by rfl)
  refine ⟨pre, report, hpre, hreport, hpasses.2 (.inr ⟨rfl, hmissing⟩), fun hmem => ?_⟩
  have hread := hunchanged hmem
  rw [show blankJob.destination = ⟨"root/a"⟩ from rfl, hmissing] at hread
  simp at hread

end Compile

end JellyViews
