/-
**Every template is accounted for.**

A run that goes on after failures tries every template once, and each trial ends in a result or in a
failure.  So the results and the failures of its report part the templates, in their order.  A run
that stops at the first failure makes the same trials up to there: its report is the beginning of
the other one.  Entries that could not be looked at come first among the failures, and such a run
does not even start if there are any.

Main definitions:

* `Compile.Options.patient` — the run that goes on after failures;
* `Compile.Plan.trials` — the trials of all templates in such a run;
* `Compile.untilFailure` — trials up to the first failure;
* `Compile.Plan.Parted`, `Compile.Plan.Stopped` — the reports of the two kinds of runs;
* `Compile.Plan.Accounting` — how a report accounts for the templates.

Main results:

* `Compile.trialsFrom_of_failFast` — **stopping at a failure changes no trial before it**;
* `Compile.failures_run`, `Compile.untried_run` — what is reported of the trials;
* `Compile.compile_accounts` — **no template is lost or counted twice**;
* `Compile.compile_accounts_halted` — a run that stops at the second of three templates.
-/

import JellyViews.Proofs.Compile.Differences
import JellyViews.Proofs.Compile.Results
import Mathlib.Data.List.TakeWhile

set_option relaxedAutoImplicit false
set_option autoImplicit false

namespace JellyViews

namespace Compile

open FileTree

/-! ### Trials -/

/-- The same run, but one that goes on after failures. -/
def Options.patient (options : Options) : Options := { options with failFast := false }

namespace Plan

/-- Whether a trial succeeded. -/
def succeeded (plan : Plan) (options : Options) (x : Trial) : Bool :=
  (resultOf? (plan.outcome options x)).isSome

/-- The trials of all templates, each in the tree that the ones before it left. -/
def trials (plan : Plan) (options : Options) (t : FileTree) : List Trial :=
  plan.trialsFrom options.patient t plan.discovery.jobs

end Plan

/-- Trials up to the first one that is no success, which is the last of them. -/
def untilFailure (succeeded : Trial → Bool) (xs : List Trial) : List Trial :=
  xs.takeWhile succeeded ++ (xs.dropWhile succeeded).take 1

section

variable {plan : Plan} {options : Options} {t : FileTree} {x : Trial} {xs : List Trial}

theorem untilFailure_append (p : Trial → Bool) (xs : List Trial) :
    untilFailure p xs ++ (xs.dropWhile p).drop 1 = xs := by
  rw [untilFailure, List.append_assoc, List.take_append_drop, List.takeWhile_append_dropWhile]

theorem untilFailure_initial (p : Trial → Bool) (xs : List Trial) : untilFailure p xs <+: xs :=
  ⟨_, untilFailure_append p xs⟩

theorem succeeded_iff : plan.succeeded options x = true ↔ ∃ r, plan.outcome options x = .ok r := by
  rw [Plan.succeeded]
  cases plan.outcome options x <;> simp [resultOf?]

theorem not_succeeded_iff :
    plan.succeeded options x = false ↔ ∃ f, plan.outcome options x = .error f := by
  rw [Plan.succeeded]
  cases plan.outcome options x <;> simp [resultOf?]

theorem trialsFrom_patient_cons (plan : Plan) (options : Options) (t : FileTree) (job : Job)
    (jobs : List Job) :
    plan.trialsFrom options.patient t (job :: jobs) =
      ⟨t, job⟩ :: plan.trialsFrom options.patient (plan.after options ⟨t, job⟩) jobs := by
  rw [Plan.trialsFrom, if_neg (by simp [Options.patient])]
  rfl

/-- A run that goes on after failures tries every template. -/
theorem jobs_trialsFrom_patient (plan : Plan) (options : Options) (t : FileTree)
    (jobs : List Job) : (plan.trialsFrom options.patient t jobs).map Trial.job = jobs := by
  induction jobs generalizing t with
  | nil => rfl
  | cons job jobs ih =>
    rw [trialsFrom_patient_cons, List.map_cons, ih]

theorem jobs_trials (plan : Plan) (options : Options) (t : FileTree) :
    (plan.trials options t).map Trial.job = plan.discovery.jobs :=
  jobs_trialsFrom_patient plan options t _

/-- **Stopping at a failure changes no trial before it.** -/
theorem trialsFrom_of_failFast (hfast : options.failFast = true) (t : FileTree) (jobs : List Job) :
    plan.trialsFrom options t jobs =
      untilFailure (plan.succeeded options) (plan.trialsFrom options.patient t jobs) := by
  induction jobs generalizing t with
  | nil => rfl
  | cons job jobs ih =>
    rw [Plan.trialsFrom, trialsFrom_patient_cons, untilFailure]
    cases hout : plan.outcome options ⟨t, job⟩ with
    | ok r =>
      have hsucceeded := succeeded_iff.2 ⟨r, hout⟩
      rw [if_neg (by simp), List.takeWhile_cons_of_pos hsucceeded,
        List.dropWhile_cons_of_pos hsucceeded, List.cons_append, ih, untilFailure]
    | error f =>
      have hfailed := not_succeeded_iff.2 ⟨f, hout⟩
      rw [if_pos (by simp [hfast]), List.takeWhile_cons_of_neg (by simp [hfailed]),
        List.dropWhile_cons_of_neg (by simp [hfailed])]
      rfl

/-! ### What is reported of the trials -/

/-- The failures of a row of templates are those of its trials. -/
theorem failures_runAll (plan : Plan) (options : Options) (t : FileTree) (jobs : List Job) :
    (plan.runAll options t jobs).2.failures =
      (plan.trialsFrom options t jobs).filterMap fun x => failureOf? (plan.outcome options x) := by
  induction jobs generalizing t with
  | nil => rfl
  | cons job jobs ih =>
    rw [runAll_cons, Plan.trialsFrom]
    cases hout : plan.outcome options ⟨t, job⟩ with
    | ok r => simp [hout, Progress.underResult, ih]
    | error f =>
      cases options.failFast with
      | true => simp [hout, Progress.underFailure, Progress.stopped]
      | false => simp [hout, Progress.underFailure, ih]

/-- The templates that are not tried are those behind the trials. -/
theorem untried_runAll (plan : Plan) (options : Options) (t : FileTree) (jobs : List Job) :
    (plan.trialsFrom options t jobs).map Trial.job ++ (plan.runAll options t jobs).2.untried =
      jobs := by
  induction jobs generalizing t with
  | nil => rfl
  | cons job jobs ih =>
    rw [runAll_cons, Plan.trialsFrom]
    cases hout : plan.outcome options ⟨t, job⟩ with
    | ok r => simpa [Progress.underResult] using ih _
    | error f =>
      cases options.failFast with
      | true => simp [Progress.underFailure, Progress.stopped]
      | false => simpa [Progress.underFailure] using ih _

theorem failures_run (plan : Plan) (options : Options) (t : FileTree) :
    (plan.run options t).2.failures =
      (plan.tried options t).filterMap fun x => failureOf? (plan.outcome options x) := by
  unfold Plan.tried Plan.run
  split
  · rfl
  · exact failures_runAll plan options t _

theorem untried_run (plan : Plan) (options : Options) (t : FileTree) :
    (plan.tried options t).map Trial.job ++ (plan.run options t).2.untried =
      plan.discovery.jobs := by
  unfold Plan.tried Plan.run
  split
  · rfl
  · exact untried_runAll plan options t _

/-- The templates are in the order of their paths. -/
theorem precedes_of_discover {root : Path} {suffix : String} {d : Discovery}
    (hd : discover t root suffix = .ok d) :
    d.jobs.Pairwise fun a b => a.source.precedes b.source = true := by
  obtain ⟨top, fresh, -, -, hjobs⟩ := discover_eq_ok hd
  rw [hjobs]
  refine (Path.pairwise_mergeSort_precedes _).filterMap _ ?_
  intro p q hpq a ha b hb
  rwa [source_of_jobOf? ha, source_of_jobOf? hb]

/-- A failure is one of the template that was tried. -/
theorem source_of_outcome {f : Failure} (h : plan.outcome options x = .error f) :
    f.source = x.job.source := by
  rw [Plan.outcome] at h
  cases hrender : plan.render x.before x.job with
  | error f' =>
    rw [Plan.compileJob_of_error hrender] at h
    obtain rfl := Except.error.inj h
    exact source_of_render hrender
  | ok text =>
    rw [Plan.compileJob_of_ok hrender] at h
    obtain ⟨e, -, rfl⟩ := Plan.reportOf_eq_error.1 h
    rfl

/-- The results of trials are about the outputs of those that succeeded, in their order. -/
theorem paths_results (plan : Plan) (options : Options) (xs : List Trial) :
    (xs.filterMap fun x => resultOf? (plan.outcome options x)).map Result.path =
      (xs.filter (plan.succeeded options)).map fun x => x.job.destination := by
  induction xs with
  | nil => rfl
  | cons x xs ih =>
    cases hout : plan.outcome options x with
    | ok r =>
      have hpath := path_of_outcome hout
      simp [hout, succeeded_iff.2 ⟨r, hout⟩, ih, hpath]
    | error f => simp [hout, not_succeeded_iff.2 ⟨f, hout⟩, ih]

/-- The failures of trials are about the sources of the others, in their order. -/
theorem sources_failures (plan : Plan) (options : Options) (xs : List Trial) :
    (xs.filterMap fun x => failureOf? (plan.outcome options x)).map Failure.source =
      (xs.filter fun x => !plan.succeeded options x).map fun x => x.job.source := by
  induction xs with
  | nil => rfl
  | cons x xs ih =>
    cases hout : plan.outcome options x with
    | ok r => simp [hout, succeeded_iff.2 ⟨r, hout⟩, ih]
    | error f =>
      have hsource := source_of_outcome hout
      simp [hout, not_succeeded_iff.2 ⟨f, hout⟩, ih, hsource]

/-- Nothing of what trials end in is left out. -/
theorem length_results_add_failures (plan : Plan) (options : Options) (xs : List Trial) :
    (xs.filterMap fun x => resultOf? (plan.outcome options x)).length +
      (xs.filterMap fun x => failureOf? (plan.outcome options x)).length = xs.length := by
  induction xs with
  | nil => rfl
  | cons x xs ih =>
    cases hout : plan.outcome options x <;> simp [hout] <;> omega

/-- Trials fail in no case if and only if all of them succeed. -/
theorem failures_eq_nil_iff :
    (xs.filterMap fun x => failureOf? (plan.outcome options x)) = [] ↔
      ∀ x ∈ xs, plan.succeeded options x = true := by
  rw [List.filterMap_eq_nil_iff]
  refine forall₂_congr fun x _ => ?_
  rw [Plan.succeeded]
  cases plan.outcome options x <;> simp [resultOf?, failureOf?]

end

/-! ### Reports -/

namespace Plan

/-- The report of a run that goes on after failures: its results and its failures, but for those of
entries that could not be looked at, part the templates in their order. -/
structure Parted (plan : Plan) (options : Options) (t : FileTree) (report : Report) : Prop where
  complete : report.aborted = false
  results : report.results.map Result.path =
    ((plan.trials options t).filter (plan.succeeded options)).map fun x => x.job.destination
  failures : (report.failures.drop plan.discovery.unreadable.length).map Failure.source =
    ((plan.trials options t).filter fun x => !plan.succeeded options x).map fun x => x.job.source
  count : report.results.length + report.failures.length =
    plan.discovery.jobs.length + plan.discovery.unreadable.length
  /-- A template is reported among the results or among the failures, and not in both. -/
  once : t.WellFormed → ∀ job ∈ plan.discovery.jobs,
    (job.destination ∈ report.results.map Result.path ↔
      job.source ∉ (report.failures.drop plan.discovery.unreadable.length).map Failure.source)

/-- The report of a run that stops at the first failure: an entry that could not be looked at keeps
it from starting, and otherwise it tries the templates up to the first that fails. -/
structure Stopped (plan : Plan) (options : Options) (t : FileTree) (report : Report) : Prop where
  blocked : plan.discovery.unreadable ≠ [] → report.results = [] ∧
    report.failures = plan.discovery.unreadable ∧
    (report.aborted = true ↔ plan.discovery.jobs ≠ [])
  results : plan.discovery.unreadable = [] → report.results.map .ok =
    ((plan.trials options t).takeWhile (plan.succeeded options)).map (plan.outcome options)
  failures : plan.discovery.unreadable = [] → report.failures.map .error =
    (((plan.trials options t).dropWhile (plan.succeeded options)).take 1).map
      (plan.outcome options)
  aborted : plan.discovery.unreadable = [] → (report.aborted = true ↔
    ((plan.trials options t).dropWhile (plan.succeeded options)).drop 1 ≠ [])

/-- How a report accounts for the templates.  A run that goes on after failures would leave the tree
`final` and give the report `full`. -/
structure Accounting (plan : Plan) (options : Options) (t final : FileTree)
    (report full : Report) : Prop where
  discovered : report.discovered = plan.discovery.jobs.length
  sorted : plan.discovery.jobs.Pairwise fun a b => a.source.precedes b.source = true
  unreadable : plan.discovery.unreadable <+: report.failures
  /-- Every template has its trial, in the order of the templates. -/
  trials : (plan.trials options t).map Trial.job = plan.discovery.jobs
  /-- Each is tried in the tree that the ones before it left. -/
  course : Course plan options.patient t (plan.trials options t) final
  parted : options.failFast = false → plan.Parted options t report
  stopped : options.failFast = true → plan.Stopped options t report
  results_prefix : report.results <+: full.results
  failures_prefix : report.failures <+: full.failures
  success : report.isSuccess = true ↔ plan.discovery.unreadable = [] ∧
    ∀ x ∈ plan.trials options t, plan.succeeded options x = true

end Plan

section

variable {plan : Plan} {options : Options} {t : FileTree}

/-! ### Runs that go on after failures -/

theorem tried_of_patient (h : options.failFast = false) :
    plan.tried options t = plan.trials options t := by
  have hpatient : options.patient = options := by
    cases options
    simp_all [Options.patient]
  rw [Plan.tried, Plan.trials, hpatient]
  simp [h]

theorem untried_of_patient (h : options.failFast = false) :
    (plan.run options t).2.untried = [] := by
  have huntried := untried_run plan options t
  rw [tried_of_patient h, jobs_trials] at huntried
  simpa using huntried

/-- Different templates are different trials. -/
theorem parted_once {root : Path} {d : Discovery} (hwell : t.WellFormed)
    (hd : discover t root options.suffix = .ok d) (plan : Plan) {xs : List Trial}
    (hxs : xs.map Trial.job = d.jobs) {job : Job} (hjob : job ∈ d.jobs) :
    job.destination ∈ (xs.filter (plan.succeeded options)).map (fun x => x.job.destination) ↔
      job.source ∉ (xs.filter fun x => !plan.succeeded options x).map fun x => x.job.source := by
  obtain ⟨x, hx, rfl⟩ := List.mem_map.1 (hxs ▸ hjob)
  have hjobs : ∀ y ∈ xs, y.job ∈ d.jobs := fun y hy => hxs ▸ List.mem_map_of_mem hy
  -- no template has two trials, as the sources of the templates are different
  have hsame : ∀ y ∈ xs, y.job = x.job → y = x := by
    have hnodup : (xs.map Trial.job).Nodup := by
      rw [hxs]
      exact (pairwise_of_discover hwell hd).imp fun hab heq => hab.2 (by rw [heq])
    exact fun y hy heq => List.inj_on_of_nodup_map hnodup hy hx heq
  constructor
  · intro hdest hsource
    obtain ⟨y, hy, hyx⟩ := List.mem_map.1 hdest
    obtain ⟨z, hz, hzx⟩ := List.mem_map.1 hsource
    obtain ⟨hy, hsucceeded⟩ := List.mem_filter.1 hy
    obtain ⟨hz, hfailed⟩ := List.mem_filter.1 hz
    obtain rfl := hsame y hy (eq_of_destination_eq hwell hd (hjobs y hy) hjob hyx)
    obtain rfl := hsame z hz (eq_of_components_eq hwell hd (hjobs z hz) hjob (by rw [hzx]))
    simp [hsucceeded] at hfailed
  · intro hsource
    refine List.mem_map.2 ⟨x, List.mem_filter.2 ⟨hx, ?_⟩, rfl⟩
    by_contra hfailed
    exact hsource (List.mem_map.2 ⟨x, List.mem_filter.2 ⟨hx, by simpa using hfailed⟩, rfl⟩)

/-- **The results and the failures of a run that goes on part the templates.** -/
theorem parted_report {root : Path} (hd : discover t root options.suffix = .ok plan.discovery)
    (hfast : options.failFast = false) :
    plan.Parted options t (plan.report options (plan.run options t).2) := by
  have htried : plan.tried options t = plan.trials options t := tried_of_patient hfast
  have hresults := results_run plan options t
  have hfailures := failures_run plan options t
  rw [htried] at hresults hfailures
  have hjobs := jobs_trials plan options t
  have hpaths := paths_results plan options (plan.trials options t)
  have hsources := sources_failures plan options (plan.trials options t)
  rw [← hresults] at hpaths
  rw [← hfailures] at hsources
  constructor
  case complete => simp [Plan.report, untried_of_patient hfast]
  case results => exact hpaths
  case failures => simpa [Plan.report] using hsources
  case count =>
    have hlength := length_results_add_failures plan options (plan.trials options t)
    have hcount := congrArg List.length hjobs
    rw [List.length_map] at hcount
    simp only [Plan.report, List.length_append, hresults, hfailures]
    omega
  case once =>
    intro hwell job hjob
    simp only [Plan.report, List.drop_left, hpaths, hsources]
    exact parted_once hwell hd plan hjobs hjob

/-! ### Runs that stop at a failure -/

theorem run_of_unreadable (hfast : options.failFast = true)
    (h : plan.discovery.unreadable ≠ []) :
    plan.run options t = (t, .stopped plan.discovery.jobs) := by
  rw [Plan.run, if_pos (by simp [hfast, h])]

theorem tried_of_failFast (hfast : options.failFast = true) (h : plan.discovery.unreadable = []) :
    plan.tried options t = untilFailure (plan.succeeded options) (plan.trials options t) := by
  rw [Plan.tried, if_neg (by simp [h]), trialsFrom_of_failFast hfast, Plan.trials]

/-- The results of trials up to the first failure are those of the successes before it, and the
failures are this one. -/
theorem outcomes_untilFailure (plan : Plan) (options : Options) (xs : List Trial) :
    ((untilFailure (plan.succeeded options) xs).filterMap
        fun x => resultOf? (plan.outcome options x)).map .ok =
      (xs.takeWhile (plan.succeeded options)).map (plan.outcome options) ∧
    ((untilFailure (plan.succeeded options) xs).filterMap
        fun x => failureOf? (plan.outcome options x)).map .error =
      ((xs.dropWhile (plan.succeeded options)).take 1).map (plan.outcome options) := by
  induction xs with
  | nil => exact ⟨rfl, rfl⟩
  | cons x xs ih =>
    unfold untilFailure at ih ⊢
    cases hout : plan.outcome options x with
    | ok r =>
      have hsucceeded := succeeded_iff.2 ⟨r, hout⟩
      simpa [hsucceeded, hout] using ih
    | error f =>
      have hfailed := not_succeeded_iff.2 ⟨f, hout⟩
      simp [hfailed, hout]

/-- **A run that stops at the first failure reports the successes before it**, and the failure. -/
theorem stopped_report (hfast : options.failFast = true) :
    plan.Stopped options t (plan.report options (plan.run options t).2) := by
  have hresults := results_run plan options t
  have hfailures := failures_run plan options t
  constructor
  case blocked =>
    intro h
    simp [Plan.report, run_of_unreadable hfast h, Progress.stopped]
  case results =>
    intro h
    rw [tried_of_failFast hfast h] at hresults
    simpa [Plan.report, hresults] using (outcomes_untilFailure plan options _).1
  case failures =>
    intro h
    rw [tried_of_failFast hfast h] at hfailures
    simpa [Plan.report, h, hfailures] using (outcomes_untilFailure plan options _).2
  case aborted =>
    intro h
    -- the trials that are left out are those of the templates that are not tried
    have huntried := untried_run plan options t
    have hjobs := congrArg (List.map Trial.job)
      (untilFailure_append (plan.succeeded options) (plan.trials options t))
    rw [List.map_append, jobs_trials, ← huntried, tried_of_failFast hfast h,
      List.append_cancel_left_eq] at hjobs
    simp only [Plan.report, ← hjobs, List.isEmpty_map, Bool.not_eq_true', ne_eq,
      List.isEmpty_eq_false_iff]

/-! ### All runs -/

/-- A run tries the first templates as a run does that goes on after failures. -/
theorem tried_initial (plan : Plan) (options : Options) (t : FileTree) :
    plan.tried options t <+: plan.trials options t := by
  cases hfast : options.failFast with
  | false => exact tried_of_patient hfast ▸ List.prefix_refl _
  | true =>
    by_cases h : plan.discovery.unreadable = []
    · rw [tried_of_failFast hfast h]
      exact untilFailure_initial _ _
    · rw [Plan.tried, if_pos (by simp [hfast, h])]
      exact List.nil_prefix

/-- Everything went well exactly if all entries could be looked at and all trials succeeded. -/
theorem isSuccess_report (plan : Plan) (options : Options) (t : FileTree) :
    (plan.report options (plan.run options t).2).isSuccess = true ↔
      plan.discovery.unreadable = [] ∧
        ∀ x ∈ plan.trials options t, plan.succeeded options x = true := by
  have hfailures := failures_run plan options t
  have huntried := untried_run plan options t
  simp only [Report.isSuccess, Plan.report, Bool.and_eq_true, List.isEmpty_iff,
    List.append_eq_nil_iff, Bool.not_not, hfailures, failures_eq_nil_iff]
  constructor
  · rintro ⟨⟨hunreadable, hsucceeded⟩, hdone⟩
    refine ⟨hunreadable, ?_⟩
    -- if no template is left, all trials were made
    have hall : plan.tried options t = plan.trials options t := by
      refine (tried_initial plan options t).eq_of_length ?_
      have hjobs := jobs_trials plan options t
      rw [hdone, List.append_nil] at huntried
      simpa using congrArg List.length (huntried.trans hjobs.symm)
    rwa [← hall]
  · rintro ⟨hunreadable, hsucceeded⟩
    have hall : plan.tried options t = plan.trials options t := by
      cases hfast : options.failFast with
      | false => exact tried_of_patient hfast
      | true =>
        rw [tried_of_failFast hfast hunreadable, untilFailure,
          List.takeWhile_eq_self_iff.2 hsucceeded, List.dropWhile_eq_nil_iff.2 hsucceeded]
        simp
    refine ⟨⟨hunreadable, hall ▸ hsucceeded⟩, ?_⟩
    rw [hall, jobs_trials] at huntried
    simpa using huntried

/-- **Every report accounts for the templates.** -/
theorem accounting_report {root : Path} (hd : discover t root options.suffix = .ok plan.discovery) :
    plan.Accounting options t (plan.run options.patient t).1
      (plan.report options (plan.run options t).2)
      (plan.report options.patient (plan.run options.patient t).2) := by
  have hfull : plan.tried options.patient t = plan.trials options t := tried_of_patient rfl
  have hinitial := tried_initial plan options t
  constructor
  case discovered => rfl
  case sorted => exact precedes_of_discover hd
  case unreadable => exact List.prefix_append _ _
  case trials => exact jobs_trials plan options t
  case course => exact hfull ▸ course_run plan options.patient t
  case parted => exact parted_report hd
  case stopped => exact stopped_report
  case results_prefix =>
    simp only [Plan.report, results_run, hfull]
    exact hinitial.filterMap _
  case failures_prefix =>
    simp only [Plan.report, failures_run, hfull]
    exact (List.prefix_append_right_inj _).2 (hinitial.filterMap _)
  case success => exact isSuccess_report plan options t

end

/-- **No template is lost or counted twice.**  A run that is given up changes no file, and the
report of any other accounts for all templates. -/
theorem compile_accounts (t : FileTree) (root : Path) (options : Options) :
    (∀ e, (compile t root options).2 = .error e → (compile t root options).1 = t) ∧
      ∀ report, (compile t root options).2 = .ok report → ∃ plan final full,
        prepare t root options.suffix = .ok plan ∧
        discover t root options.suffix = .ok plan.discovery ∧
        compile t root options.patient = (final, .ok full) ∧
        plan.Accounting options t final report full := by
  refine ⟨fun e => compile_error, fun report h => ?_⟩
  cases hprepare : prepare t root options.suffix with
  | error e => simp [compile_of_prepare_error hprepare] at h
  | ok plan =>
    obtain ⟨hdiscover, -⟩ := prepare_eq_ok hprepare
    have hfull : compile t root options.patient = _ := compile_of_prepare hprepare
    rw [compile_of_prepare hprepare] at h
    obtain rfl := Except.ok.inj h
    exact ⟨plan, _, _, rfl, hdiscover, hfull, accounting_report hdiscover⟩

/-- Three templates, of which the second uses a variable that there is not. -/
def halted : FileTree :=
  ⟨.ofList [(["root"], .directory), (["root", "a.tera"], .file (encode "one")),
    (["root", "b.tera"], .file (encode "\x7b\x7b nothing \x7d\x7d")),
    (["root", "c.tera"], .file (encode "three"))], []⟩

/-- The templates of `halted`. -/
def haltedJobs : List Job :=
  [⟨⟨"root/a.tera"⟩, ⟨"root/a"⟩⟩, ⟨⟨"root/b.tera"⟩, ⟨"root/b"⟩⟩, ⟨⟨"root/c.tera"⟩, ⟨"root/c"⟩⟩]

theorem discover_halted : discover halted ⟨"root"⟩ "tera" = .ok ⟨haltedJobs, []⟩ :=
  discover_of_isFile rfl (by decide +kernel) (by decide +kernel) (by decide +kernel)
    (by decide +kernel) (by decide +kernel)

/-- A run over `halted` that stops at the first failure reports the first template and the second,
and leaves out the third. -/
theorem compile_accounts_halted :
    ∃ report full, (compile halted ⟨"root"⟩ ⟨"tera", false, true⟩).2 = .ok report ∧
      (compile halted ⟨"root"⟩ ⟨"tera", false, false⟩).2 = .ok full ∧
      report.discovered = 3 ∧ report.aborted = true ∧
      report.results = [⟨.written, ⟨"root/a"⟩⟩] ∧
      report.failures.map Failure.source = [⟨"root/b.tera"⟩] ∧
      report.results <+: full.results ∧
      full.results = [⟨.written, ⟨"root/a"⟩⟩, ⟨.written, ⟨"root/c"⟩⟩] := by
  have hprepare := prepare_of_isFile discover_halted (by decide +kernel)
  have hcompile : (compile halted ⟨"root"⟩ ⟨"tera", false, true⟩).2 = _ :=
    congrArg Prod.snd (compile_of_prepare hprepare)
  have hpatient : (compile halted ⟨"root"⟩ ⟨"tera", false, false⟩).2 = _ :=
    congrArg Prod.snd (compile_of_prepare hprepare)
  obtain ⟨plan, final, full, hplan, -, hfull, haccounts⟩ :=
    (compile_accounts halted ⟨"root"⟩ ⟨"tera", false, true⟩).2 _ hcompile
  obtain rfl := Except.ok.inj (hprepare.symm.trans hplan)
  obtain rfl := Except.ok.inj ((congrArg Prod.snd hfull).symm.trans hpatient)
  exact ⟨_, _, hcompile, hpatient, haccounts.discovered, by decide +kernel, by decide +kernel,
    by decide +kernel, haccounts.results_prefix, by decide +kernel⟩

end Compile

end JellyViews
