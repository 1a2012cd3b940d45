/-
**The course of a run.**

A run tries templates one after the other, each in the tree that the one before it left.  What a
path stands for at the end is decided by the last template that touched it: one whose output it is,
or one whose temporary file it was.

Main definitions:

* `Compile.Trial` — a template that was tried, and the tree in which it was;
* `Compile.Plan.trialsFrom`, `Compile.Plan.tried` — the trials of a run;
* `Compile.Course` — trials that follow each other, from one tree to another;
* `Compile.Plan.written?`, `Compile.Plan.Clears`, `Compile.Plan.left?` — what a trial leaves at a
  path;
* `Compile.Plan.lastLeft?` — what a run leaves there.

Main results:

* `Compile.course_runAll` — a run is a course;
* `Compile.Sited.entry_after` — what a path stands for after one trial;
* `Compile.Course.entry_final` — **what it stands for at the end**;
* `Compile.wellFormed_compile` — a run leaves a tree for which all of this holds again.
-/

import JellyViews.Proofs.Compile.Single

set_option relaxedAutoImplicit false
set_option autoImplicit false

namespace JellyViews

namespace Compile

open FileTree

/-! ### Trials -/

/-- A template that was tried, and the tree in which it was. -/
structure Trial where
  before : FileTree
  job : Job

namespace Plan

/-- The tree after a trial. -/
def after (plan : Plan) (options : Options) (x : Trial) : FileTree :=
  (plan.compileJob options.dryRun x.before x.job).1

/-- What became of the template. -/
def outcome (plan : Plan) (options : Options) (x : Trial) : Except Failure Result :=
  (plan.compileJob options.dryRun x.before x.job).2

/-- The trials of a row of templates; a run that is to stop at the first failure does so. -/
def trialsFrom (plan : Plan) (options : Options) : FileTree → List Job → List Trial
  | _, [] => []
  | t, job :: jobs =>
    ⟨t, job⟩ ::
      if options.failFast ∧ (failureOf? (plan.outcome options ⟨t, job⟩)).isSome then []
      else trialsFrom plan options (plan.after options ⟨t, job⟩) jobs

/-- The trials of a run. -/
def tried (plan : Plan) (options : Options) (t : FileTree) : List Trial :=
  if options.failFast && !plan.discovery.unreadable.isEmpty then []
  else plan.trialsFrom options t plan.discovery.jobs

end Plan

/-- The trials lead from one tree to another, each from the tree that the one before it left. -/
inductive Course (plan : Plan) (options : Options) : FileTree → List Trial → FileTree → Prop where
  | done (t : FileTree) : Course plan options t [] t
  | next {t final : FileTree} {job : Job} {xs : List Trial} :
      Course plan options (plan.after options ⟨t, job⟩) xs final →
      Course plan options t (⟨t, job⟩ :: xs) final

section

variable {plan : Plan} {options : Options}

/-! ### Runs and courses -/

theorem runAll_cons (plan : Plan) (options : Options) (t : FileTree) (job : Job)
    (jobs : List Job) :
    plan.runAll options t (job :: jobs) =
      match plan.outcome options ⟨t, job⟩ with
      | .ok x =>
        let r := plan.runAll options (plan.after options ⟨t, job⟩) jobs
        (r.1, r.2.underResult x)
      | .error f =>
        if options.failFast then
          (plan.after options ⟨t, job⟩, (Progress.stopped jobs).underFailure f)
        else
          let r := plan.runAll options (plan.after options ⟨t, job⟩) jobs
          (r.1, r.2.underFailure f) := by
  rw [Plan.runAll, Plan.outcome, Plan.after]
  rcases plan.compileJob options.dryRun t job with ⟨t', f | x⟩ <;> rfl

theorem course_runAll (plan : Plan) (options : Options) (t : FileTree) (jobs : List Job) :
    Course plan options t (plan.trialsFrom options t jobs) (plan.runAll options t jobs).1 := by
  induction jobs generalizing t with
  | nil => exact .done t
  | cons job jobs ih =>
    rw [runAll_cons, Plan.trialsFrom]
    refine .next ?_
    cases plan.outcome options ⟨t, job⟩ with
    | ok x => simpa [failureOf?] using ih _
    | error f =>
      cases options.failFast with
      | true => exact .done _
      | false => simpa [failureOf?] using ih _

/-- The results of a run are those of its trials. -/
theorem results_runAll (plan : Plan) (options : Options) (t : FileTree) (jobs : List Job) :
    (plan.runAll options t jobs).2.results =
      (plan.trialsFrom options t jobs).filterMap fun x => resultOf? (plan.outcome options x) := by
  induction jobs generalizing t with
  | nil => rfl
  | cons job jobs ih =>
    rw [runAll_cons, Plan.trialsFrom]
    cases hout : plan.outcome options ⟨t, job⟩ with
    | ok x => simp [hout, resultOf?, failureOf?, Progress.underResult, ih]
    | error f =>
      cases options.failFast with
      | true => simp [hout, resultOf?, failureOf?, Progress.underFailure, Progress.stopped]
      | false => simp [hout, resultOf?, failureOf?, Progress.underFailure, ih]

/-- A run that changes nothing tries all templates in the same tree. -/
theorem runAll_of_still {t : FileTree} {jobs : List Job} (hfast : options.failFast = false)
    (hstill : ∀ job ∈ jobs, plan.after options ⟨t, job⟩ = t) :
    plan.runAll options t jobs =
      (t, { results := jobs.filterMap fun job => resultOf? (plan.outcome options ⟨t, job⟩)
            failures := jobs.filterMap fun job => failureOf? (plan.outcome options ⟨t, job⟩)
            untried := [] }) := by
  induction jobs with
  | nil => rfl
  | cons job jobs ih =>
    rw [runAll_cons, hstill job List.mem_cons_self,
      ih fun j hj => hstill j (List.mem_cons_of_mem _ hj), hfast]
    cases hout : plan.outcome options ⟨t, job⟩ <;>
      simp [hout, Progress.underResult, Progress.underFailure]

/-- The templates are tried in their order. -/
theorem jobs_trialsFrom (plan : Plan) (options : Options) (t : FileTree) (jobs : List Job) :
    (plan.trialsFrom options t jobs).map Trial.job <+: jobs := by
  induction jobs generalizing t with
  | nil => exact List.prefix_refl _
  | cons job jobs ih =>
    rw [Plan.trialsFrom, List.map_cons]
    refine List.cons_prefix_cons.2 ⟨rfl, ?_⟩
    split
    · exact List.nil_prefix
    · exact ih _

theorem course_run (plan : Plan) (options : Options) (t : FileTree) :
    Course plan options t (plan.tried options t) (plan.run options t).1 := by
  unfold Plan.tried Plan.run
  split
  · exact .done t
  · exact course_runAll plan options t _

theorem results_run (plan : Plan) (options : Options) (t : FileTree) :
    (plan.run options t).2.results =
      (plan.tried options t).filterMap fun x => resultOf? (plan.outcome options x) := by
  unfold Plan.tried Plan.run
  split
  · rfl
  · exact results_runAll plan options t _

theorem jobs_tried (plan : Plan) (options : Options) (t : FileTree) :
    (plan.tried options t).map Trial.job <+: plan.discovery.jobs := by
  unfold Plan.tried
  split
  · exact List.nil_prefix
  · exact jobs_trialsFrom plan options t _

/-- A course can be looked at from any of its trials on. -/
theorem Course.split {t final : FileTree} {xs ys : List Trial} {x : Trial}
    (h : Course plan options t (xs ++ x :: ys) final) :
    Course plan options t xs x.before ∧ Course plan options (plan.after options x) ys final := by
  induction xs generalizing t with
  | nil =>
    cases h with
    | next hrest => exact ⟨.done _, hrest⟩
  | cons y xs ih =>
    cases h with
    | next hrest =>
      obtain ⟨hfront, hback⟩ := ih hrest
      exact ⟨.next hfront, hback⟩

end

/-! ### What a trial leaves -/

namespace Plan

/-- The text that a trial has written to the output of its template. -/
def written? (plan : Plan) (options : Options) (x : Trial) : Option String :=
  match plan.outcome options x, plan.render x.before x.job with
  | .ok ⟨.written, _⟩, .ok text => some text
  | _, _ => none

/-- Whether a template that ends like this has got as far as its temporary file: its output was
written, or could not be written although the template was rendered. -/
def usedTemporary : Except Failure Result → Bool
  | .ok r => r.status = .written
  | .error f => f.kind = .persist

/-- Whether the path was the temporary file of a trial, which is gone after it. -/
abbrev Clears (plan : Plan) (options : Options) (p : Path) (x : Trial) : Prop :=
  (temporaryFor x.job.destination).components = p.components ∧
    usedTemporary (plan.outcome options x) = true

/-- What a trial leaves at a path, if it touches it: a text that it has written, or nothing. -/
def left? (plan : Plan) (options : Options) (p : Path) (x : Trial) :
    Option (Except FileError Entry) :=
  Option.or
    (if x.job.destination.components = p.components then
      (plan.written? options x).map fun text => .ok (.file (encode text))
    else none)
    (if plan.Clears options p x then some (.error .missing) else none)

/-- What the last trial that touches a path leaves there. -/
def lastLeft? (plan : Plan) (options : Options) (p : Path) (xs : List Trial) :
    Option (Except FileError Entry) :=
  xs.reverse.findSome? (plan.left? options p)

end Plan

/-! ### From one trial to the next -/

section

variable {t : FileTree} {root p : Path} {top : Location} {suffix : String}
  {names names' : List String} {s stem : String} {x : Trial}

/-- **What a path stands for after one trial**: a path below the root that is short enough, where
there is no directory. -/
theorem Sited.entry_after (h : Sited t root top suffix x.job names stem) (hroot : root.text ≠ "")
    (hlink : t.UnlinkedBelow top) (hframe : SameFrame t x.before)
    (hp : Denotes t root top p names' s) (hfits : Fits p s)
    (hdir : t.isDirectory (top ++ names' ++ [s]) = false) (plan : Plan) (options : Options) :
    (plan.after options x).entry p = (plan.left? options p x).getD (x.before.entry p) := by
  have hentry (t' : FileTree) (hframe' : SameFrame t t') :
      t'.entry p = t'.entryAt (top ++ names' ++ [s]) :=
    (hp.of_sameFrame hframe').entry_eq (unlinkedBelow_of_sameFrame hframe' hlink) hfits
  have htemp : (temporaryFor x.job.destination).components = p.components ↔
      names = names' ∧ temporaryName stem = s :=
    (h.denotes_temporary hroot).components_eq_iff hp
  have hne (y : String) : top ++ names ++ [y] ≠ [] := by simp
  have hcases := h.compiled hlink hframe plan options.dryRun
  rw [Plan.after, hentry _ (h.sameFrame_compileJob hlink hframe plan options.dryRun),
    hentry _ hframe]
  unfold Plan.left? Plan.Clears Plan.written? Plan.outcome
  generalize plan.compileJob options.dryRun x.before x.job = r at hcases
  generalize options.dryRun = dryRun at hcases
  cases hcases with
  | unrendered f hrender => simp [Plan.usedTemporary, Plan.kind_of_render hrender]
  | persisted text r hrender hpersist =>
    cases hpersist with
    | unchanged | dry => simp [Plan.reportOf, Plan.usedTemporary]
    | refused e hread hwhy =>
      -- a path that fits and is no directory could have been written
      have hother : (temporaryFor x.job.destination).components ≠ p.components := by
        intro heq
        obtain ⟨rfl, rfl⟩ := htemp.1 heq
        have hisdir := hwhy (h.fits_temporary hp hfits)
        rw [hframe.directory, hdir] at hisdir
        simp at hisdir
      simp [Plan.reportOf, Plan.usedTemporary, hother]
    | undone e hread hdirtemp =>
      rw [entryAt_drop _ (hne _)]
      simp only [location_eq_iff, Plan.reportOf, Plan.usedTemporary, htemp]
      by_cases heq : names = names' ∧ temporaryName stem = s
      · simp [heq, Failure.ofWriting]
      · simp only [heq, if_false, false_and, Option.map_none, ite_self, Option.or_none]
        rfl
    | written hread hdirtemp hfile hname =>
      have houtput : x.job.destination.components = p.components ↔ names = names' ∧ stem = s :=
        (h.denotes_destination hroot hname.1 hname.2).components_eq_iff hp
      rw [entryAt_put _ (hne _), entryAt_drop _ (hne _)]
      simp only [location_eq_iff, Plan.reportOf, Plan.usedTemporary, hrender, houtput, htemp]
      by_cases heq : names = names' ∧ stem = s
      · simp [heq]
      · by_cases heq' : names = names' ∧ temporaryName stem = s
        · obtain ⟨rfl, rfl⟩ := heq'
          simp [Ne.symm (temporaryName_ne stem)]
        · simp only [heq, heq', if_false, false_and]
          rfl

/-! ### From the beginning to the end -/

theorem lastLeft?_cons (plan : Plan) (options : Options) (p : Path) (x : Trial)
    (xs : List Trial) :
    plan.lastLeft? options p (x :: xs) =
      (plan.lastLeft? options p xs).or (plan.left? options p x) := by
  simp [Plan.lastLeft?, List.findSome?_append]

/-- All trees of a course have the same directories and links. -/
theorem Course.sameFrame {plan : Plan} {options : Options} {cur final : FileTree}
    {xs : List Trial} (h : Course plan options cur xs final) (hlink : t.UnlinkedBelow top)
    (hjobs : ∀ x ∈ xs, ∃ names stem, Sited t root top suffix x.job names stem)
    (hframe : SameFrame t cur) : SameFrame t final := by
  induction h with
  | done => exact hframe
  | next hrest ih =>
    obtain ⟨names, stem, hsited⟩ := hjobs _ List.mem_cons_self
    exact ih (fun x hx => hjobs x (List.mem_cons_of_mem _ hx))
      (hsited.sameFrame_compileJob hlink hframe plan options.dryRun)

/-- All trees of a course are well-formed if the first one is. -/
theorem Course.wellFormed {plan : Plan} {options : Options} {cur final : FileTree}
    {xs : List Trial} (h : Course plan options cur xs final) (hlink : t.UnlinkedBelow top)
    (hjobs : ∀ x ∈ xs, ∃ names stem, Sited t root top suffix x.job names stem)
    (hframe : SameFrame t cur) (hwell : cur.WellFormed) : final.WellFormed := by
  induction h with
  | done => exact hwell
  | @next cur final job xs hrest ih =>
    obtain ⟨names, stem, hsited⟩ := hjobs ⟨cur, job⟩ List.mem_cons_self
    have hdir : cur.isDirectory (top ++ names) = true := by
      rw [hframe.directory]
      exact hsited.met.directory
    exact ih (fun x hx => hjobs x (List.mem_cons_of_mem _ hx))
      (hsited.sameFrame_compileJob hlink hframe plan options.dryRun)
      ((hsited.compiled hlink hframe plan options.dryRun).wellFormed hwell hdir hsited.noSlash)

/-- The templates that a run tries were found. -/
theorem sited_of_mem_tried {plan : Plan}
    (hjobs : ∀ job ∈ plan.discovery.jobs, ∃ names stem, Sited t root top suffix job names stem)
    (options : Options) (cur : FileTree) :
    ∀ x ∈ plan.tried options cur, ∃ names stem, Sited t root top suffix x.job names stem :=
  fun x hx => hjobs x.job ((jobs_tried plan options cur).subset (List.mem_map_of_mem hx))

/-- Every tree in which a template is tried has the directories and links of the first one. -/
theorem sameFrame_of_mem_tried {plan : Plan}
    (hjobs : ∀ job ∈ plan.discovery.jobs, ∃ names stem, Sited t root top suffix job names stem)
    (hlink : t.UnlinkedBelow top) (options : Options) :
    ∀ x ∈ plan.tried options t, SameFrame t x.before := by
  intro x hx
  have htried := sited_of_mem_tried hjobs options t
  have hcourse := course_run plan options t
  obtain ⟨earlier, later, hsplit⟩ := List.append_of_mem hx
  rw [hsplit] at hcourse htried
  exact hcourse.split.1.sameFrame hlink (fun y hy => htried y (List.mem_append_left _ hy)) (.refl t)

/-- No template is tried twice. -/
theorem source_ne_of_tried {plan : Plan} {options : Options} {earlier later : List Trial}
    (hne : plan.discovery.jobs.Pairwise fun a b => a.source.components ≠ b.source.components)
    (hsplit : plan.tried options t = earlier ++ x :: later) :
    ∀ y ∈ later, x.job.source.components ≠ y.job.source.components := by
  -- the templates that were tried are the first ones that were found
  have htried := hne.sublist (jobs_tried plan options t).sublist
  rw [hsplit, List.map_append, List.map_cons, List.pairwise_append, List.pairwise_cons] at htried
  exact fun y hy => htried.2.1.1 y.job (List.mem_map_of_mem hy)

/-- **What a path stands for at the end** is what the last trial that touched it left there. -/
theorem Course.entry_final {plan : Plan} {options : Options} {cur final : FileTree}
    {xs : List Trial} (h : Course plan options cur xs final) (hroot : root.text ≠ "")
    (hlink : t.UnlinkedBelow top)
    (hjobs : ∀ x ∈ xs, ∃ names stem, Sited t root top suffix x.job names stem)
    (hframe : SameFrame t cur) (hp : Denotes t root top p names' s) (hfits : Fits p s)
    (hdir : t.isDirectory (top ++ names' ++ [s]) = false) :
    final.entry p = (plan.lastLeft? options p xs).getD (cur.entry p) := by
  -- what comes later decides; the first trial only does where nothing later touched the path
  induction h with
  | done => rfl
  | @next cur final job xs hrest ih =>
    obtain ⟨names, stem, hsited⟩ := hjobs ⟨cur, job⟩ List.mem_cons_self
    have hstep := hsited.entry_after hroot hlink hframe hp hfits hdir plan options
    rw [ih (fun x hx => hjobs x (List.mem_cons_of_mem _ hx))
      (hsited.sameFrame_compileJob hlink hframe plan options.dryRun), hstep, lastLeft?_cons]
    cases plan.lastLeft? options p xs <;> rfl

/-- **A run keeps trees well-formed**, and free from links below the root. -/
theorem wellFormed_compile {options : Options} (hwell : t.WellFormed)
    (hlink : ∀ top, t.resolve root = .ok top → t.UnlinkedBelow top) :
    (compile t root options).1.WellFormed ∧
      ∀ top, t.resolve root = .ok top → (compile t root options).1.UnlinkedBelow top := by
  cases hprepare : prepare t root options.suffix with
  | error e =>
    rw [compile_of_prepare_error hprepare]
    exact ⟨hwell, hlink⟩
  | ok plan =>
    obtain ⟨top, htop, -, hjobs, -⟩ := sited_of_prepare hwell hlink hprepare
    have htried := sited_of_mem_tried hjobs options t
    have hcourse := course_run plan options t
    rw [compile_of_prepare hprepare]
    refine ⟨hcourse.wellFormed (hlink top htop) htried (.refl t) hwell, fun top' htop' => ?_⟩
    obtain rfl : top = top' := by simpa [htop] using htop'
    exact unlinkedBelow_of_sameFrame (hcourse.sameFrame (hlink top htop) htried (.refl t))
      (hlink top htop)

end

end Compile

end JellyViews
