/-
**Compiling one template.**

What a template does depends on the directories and links of the tree, on its source and on its
output as they are; and it changes no more than its output and its temporary file.

Main definitions:

* `Compile.resultOf?`, `Compile.failureOf?` — the two ways in which a template ends;
* `Compile.Plan.reportOf` — the report on a text that was persisted;
* `Compile.Plan.Compiled` — what can become of a template.

Main results:

* `Compile.Sited.compiled` — **all that can become of a template**, in any tree with the
  directories and links of the one in which it was found;
* `Compile.Sited.sameFrame_compileJob`, `Compile.sameFrame_runAll` — no template changes directories
  or links;
* `Compile.Sited.render_eq`, `Compile.Sited.holds_eq` — what a template reads.
-/

import JellyViews.Compile.Run
import JellyViews.Proofs.Compile.Places

set_option relaxedAutoImplicit false
set_option autoImplicit false

namespace JellyViews

namespace Compile

open FileTree

/-! ### Results and failures -/

/-- The result of a template, unless it failed. -/
def resultOf? : Except Failure Result → Option Result
  | .ok x => some x
  | .error _ => none

/-- The failure of a template, if it failed. -/
def failureOf? : Except Failure Result → Option Failure
  | .ok _ => none
  | .error f => some f

@[simp] theorem resultOf?_ok (x : Result) : resultOf? (.ok x) = some x := rfl

@[simp] theorem resultOf?_error (f : Failure) : resultOf? (.error f) = none := rfl

@[simp] theorem failureOf?_ok (x : Result) : failureOf? (.ok x) = none := rfl

@[simp] theorem failureOf?_error (f : Failure) : failureOf? (.error f) = some f := rfl

theorem resultOf?_eq_some {r : Except Failure Result} {x : Result} :
    resultOf? r = some x ↔ r = .ok x := by
  cases r <;> simp [resultOf?]

namespace Plan

variable {plan : Plan} {t : FileTree} {job : Job}

/-! ### Rendering and persisting -/

/-- The report on a template whose text was persisted. -/
def reportOf (job : Job) : Except FileError Status → Except Failure Result
  | .ok status => .ok ⟨status, job.destination⟩
  | .error e => .error (.ofWriting job.source job.destination e)

theorem reportOf_eq_ok {r : Except FileError Status} {x : Result} :
    reportOf job r = .ok x ↔ r = .ok x.status ∧ x.path = job.destination := by
  rcases r with e | status
  · simp [reportOf]
  · rcases x with ⟨status', p⟩
    simp [reportOf, eq_comm]

theorem reportOf_eq_error {r : Except FileError Status} {f : Failure} :
    reportOf job r = .error f ↔
      ∃ e, r = .error e ∧ f = .ofWriting job.source job.destination e := by
  rcases r with e | status <;> simp [reportOf, eq_comm]

theorem compileJob_of_error {f : Failure} (h : plan.render t job = .error f) (dryRun : Bool) :
    plan.compileJob dryRun t job = (t, .error f) := by
  simp [compileJob, h]

theorem compileJob_of_ok {text : String} (h : plan.render t job = .ok text) (dryRun : Bool) :
    plan.compileJob dryRun t job =
      ((persist t job.destination text dryRun).1,
        reportOf job (persist t job.destination text dryRun).2) := by
  simp only [compileJob, h]
  rcases persist t job.destination text dryRun with ⟨t', e | status⟩ <;> rfl

/-- A template that cannot be rendered is not at the stage of writing. -/
theorem kind_of_render {f : Failure} (h : plan.render t job = .error f) : f.kind ≠ .persist := by
  unfold render evaluate at h
  split at h
  · split at h
    · simp at h
    · obtain rfl := Except.error.inj h
      unfold Failure.ofRendering
      split <;> simp_all
  · obtain rfl := Except.error.inj h
    simp [Failure.ofReading]

/-- What can become of a template whose output is `stem` in a directory. -/
inductive Compiled (plan : Plan) (t : FileTree) (job : Job) (dir : Location) (stem : String)
    (dryRun : Bool) : FileTree × Except Failure Result → Prop where
  | unrendered (f : Failure) (h : plan.render t job = .error f) :
      Compiled plan t job dir stem dryRun (t, .error f)
  | persisted (text : String) (r : FileTree × Except FileError Status)
      (h : plan.render t job = .ok text)
      (hr : Persisted t job.destination dir stem text dryRun r) :
      Compiled plan t job dir stem dryRun (r.1, reportOf job r.2)

theorem Compiled.sameFrame {dir : Location} {stem : String} {dryRun : Bool}
    {r : FileTree × Except Failure Result} (h : plan.Compiled t job dir stem dryRun r)
    (hlink : ∀ s, t.Unlinked (dir ++ [s])) : SameFrame t r.1 := by
  cases h with
  | unrendered f hrender => exact .refl t
  | persisted text r hrender hr => exact hr.sameFrame (hlink _) (hlink _)

/-- A tree stays well-formed if the template stands in a directory and its stem has no slash. -/
theorem Compiled.wellFormed {dir : Location} {stem : String} {dryRun : Bool}
    {r : FileTree × Except Failure Result} (h : plan.Compiled t job dir stem dryRun r)
    (hwell : t.WellFormed) (hdir : t.isDirectory dir = true) (hslash : '/' ∉ stem.toList) :
    r.1.WellFormed := by
  have hne (s : String) : dir ++ [s] ≠ [] := by simp
  cases h with
  | unrendered f hrender => exact hwell
  | persisted text r hrender hr =>
    cases hr with
    | unchanged | dry | refused => exact hwell
    | undone e hread htemp => exact hwell.drop (hne _) htemp
    | written hread htemp hfile hname =>
      refine (hwell.drop (hne _) htemp).put_file ?_ ⟨hslash, hname⟩ ?_ _
      · rw [isDirectory_drop t (hne _), if_neg, hdir]
        intro heq
        simp at heq
      · rw [isDirectory_drop t (hne _), hfile, ite_self]

end Plan

/-! ### Templates below the root -/

section

variable {t cur : FileTree} {root : Path} {top : Location} {suffix : String} {job : Job}
  {names : List String} {stem : String}

theorem unlinked_concat (hlink : t.UnlinkedBelow top) (names : List String) (s : String) :
    t.Unlinked (top ++ names ++ [s]) := by
  rw [List.append_assoc]
  exact hlink _ (by simp)

theorem unlinkedBelow_of_sameFrame (hframe : SameFrame t cur) (hlink : t.UnlinkedBelow top) :
    cur.UnlinkedBelow top :=
  fun names hnames => hframe.unlinked (hlink names hnames)

namespace Sited

variable (h : Sited t root top suffix job names stem) (hlink : t.UnlinkedBelow top)
  (hframe : SameFrame t cur)

include h hlink hframe

/-- **All that can become of a template.** -/
theorem compiled (plan : Plan) (dryRun : Bool) :
    plan.Compiled cur job (top ++ names) stem dryRun (plan.compileJob dryRun cur job) := by
  cases hrender : plan.render cur job with
  | error f =>
    rw [Plan.compileJob_of_error hrender]
    exact .unrendered f hrender
  | ok text =>
    rw [Plan.compileJob_of_ok hrender]
    exact .persisted text _ hrender (persisted_persist (h.leads_destination.of_sameFrame hframe)
      h.stem_ne (hframe.unlinked (unlinked_concat hlink names _)) text dryRun)

/-- No template changes directories or links. -/
theorem sameFrame_compileJob (plan : Plan) (dryRun : Bool) :
    SameFrame t (plan.compileJob dryRun cur job).1 :=
  hframe.trans ((h.compiled hlink hframe plan dryRun).sameFrame fun s =>
    hframe.unlinked (unlinked_concat hlink names s))

/-- A template is rendered from its source. -/
theorem render_eq (plan : Plan)
    (hsource : cur.get? (top ++ names ++ [stem ++ ("." ++ suffix)]) =
      t.get? (top ++ names ++ [stem ++ ("." ++ suffix)])) :
    plan.render cur job = plan.render t job := by
  have hname := h.met.isName_last
  have hlink' := unlinked_concat hlink names (stem ++ ("." ++ suffix))
  have hread : cur.readText job.source = t.readText job.source := by
    rw [h.met.leads.readText_of_name hname.notIdle hname.2.2 hlink',
      (h.met.leads.of_sameFrame hframe).readText_of_name hname.notIdle hname.2.2
        (hframe.unlinked hlink'), textAt, textAt, hsource]
  rw [Plan.render, Plan.render, hread]

omit hlink in
/-- Above the directory of a template there is a directory. -/
theorem above (hwell : t.WellFormed) : cur.isDirectory (top ++ names).dropLast = true := by
  rw [hframe.directory]
  by_cases hnil : top ++ names = []
  · rw [hnil]
    rfl
  · exact hwell.above hnil (by simp [isDirectory_iff.1 h.met.directory])

/-- Whether there is anything to write depends on the output. -/
theorem holds_eq (hwell : t.WellFormed)
    (houtput : cur.get? (top ++ names ++ [stem]) = t.get? (top ++ names ++ [stem]))
    (text : String) : holds cur job.destination text = holds t job.destination text := by
  have hleads := h.leads_destination
  have hleads' := hleads.of_sameFrame hframe
  by_cases hspecial : Path.isIdle stem = true ∨ stem = ".."
  · rw [Bool.eq_iff_iff, holds_iff, holds_iff]
    exact iff_of_false
      (hleads'.readText_special h.stem_ne hspecial (h.above hframe hwell) text)
      (hleads.readText_special h.stem_ne hspecial (h.above (.refl t) hwell) text)
  · obtain ⟨hidle, hup⟩ := not_or.1 hspecial
    have hidle : Path.isIdle stem = false := by simpa using hidle
    have hlink' := unlinked_concat hlink names stem
    rw [holds, holds, hleads.readText_of_name hidle hup hlink',
      hleads'.readText_of_name hidle hup (hframe.unlinked hlink'), textAt, textAt, houtput]

end Sited

/-- Nor do templates in a row. -/
theorem sameFrame_runAll {jobs : List Job}
    (hjobs : ∀ job ∈ jobs, ∃ names stem, Sited t root top suffix job names stem)
    (hlink : t.UnlinkedBelow top) (hframe : SameFrame t cur) (plan : Plan) (options : Options) :
    SameFrame t (plan.runAll options cur jobs).1 := by
  induction jobs generalizing cur with
  | nil => exact hframe
  | cons job jobs ih =>
    obtain ⟨names, stem, h⟩ := hjobs job List.mem_cons_self
    have hstep := h.sameFrame_compileJob hlink hframe plan options.dryRun
    have hrest {cur' : FileTree} (hframe' : SameFrame t cur') :
        SameFrame t (plan.runAll options cur' jobs).1 :=
      ih (fun j hj => hjobs j (List.mem_cons_of_mem _ hj)) hframe'
    unfold Plan.runAll
    rcases hcompile : plan.compileJob options.dryRun cur job with ⟨cur', f | x⟩
    · rw [hcompile] at hstep
      dsimp only
      split
      · exact hstep
      · exact hrest hstep
    · rw [hcompile] at hstep
      exact hrest hstep

end

/-! ### Prepared runs -/

section

variable {t : FileTree} {root : Path} {suffix : String} {plan : Plan}

/-- A run that is prepared has found its templates. -/
theorem prepare_eq_ok (h : prepare t root suffix = .ok plan) :
    discover t root suffix = .ok plan.discovery ∧ plan.root = root := by
  unfold prepare at h
  split at h
  · simp at h
  · rename_i d hd
    split at h
    · simp at h
    · obtain rfl := Except.ok.inj h
      exact ⟨hd, rfl⟩

/-- The templates of a prepared run, below a root without links. -/
theorem sited_of_prepare (hwell : t.WellFormed)
    (hlink : ∀ top, t.resolve root = .ok top → t.UnlinkedBelow top)
    (h : prepare t root suffix = .ok plan) :
    ∃ top, t.resolve root = .ok top ∧ root.text ≠ "" ∧
      (∀ job ∈ plan.discovery.jobs, ∃ names stem, Sited t root top suffix job names stem) ∧
      plan.discovery.jobs.Pairwise fun a b =>
        a.source.precedes b.source = true ∧ a.source.components ≠ b.source.components := by
  obtain ⟨hdiscover, -⟩ := prepare_eq_ok h
  obtain ⟨top, fresh, htop, -, -⟩ := discover_eq_ok hdiscover
  exact ⟨top, htop, text_ne_empty_of_resolve htop,
    sited_of_discover hwell htop (hlink top htop) hdiscover, pairwise_of_discover hwell hdiscover⟩

/-- Below a root that declares no tags, the tags are the standard ones. -/
theorem prepare_of_isFile {d : Discovery} (hd : discover t root suffix = .ok d)
    (h : t.isFile (Extension.pathIn root) = false) :
    prepare t root suffix = .ok ⟨root, Tag.Registry.standard, d⟩ := by
  simp [prepare, hd, Extension.registryFor, Extension.detect, h, bind, Except.bind, pure,
    Except.pure]

theorem compile_of_prepare {options : Options} (h : prepare t root options.suffix = .ok plan) :
    compile t root options =
      ((plan.run options t).1, .ok (plan.report options (plan.run options t).2)) := by
  simp only [compile, h]

theorem compile_of_prepare_error {options : Options} {e : CompileError}
    (h : prepare t root options.suffix = .error e) : compile t root options = (t, .error e) := by
  simp only [compile, h]

end

end Compile

end JellyViews
