/-
**What becomes of the outputs.**

At its trial every output that is reported has the text of its template.  No later template has the
same output, but the output may be the temporary file of a later one, which takes it away.

Main results:

* `Compile.Sited.result_holds` — a reported output has its text after the trial;
* `Compile.readText_of_trial` — whether it keeps this text;
* `Compile.compile_result_iff` — **it has its text after the run exactly if it was no temporary file
  in between**;
* `Compile.compile_result_of_apart` — hence a report is true if no output is a temporary file.
-/

import JellyViews.Proofs.Compile.Course

set_option relaxedAutoImplicit false
set_option autoImplicit false

namespace JellyViews

namespace Compile

open FileTree

/-! ### At the trial -/

theorem readText_congr {t t' : FileTree} {p : Path} (h : t'.entry p = t.entry p) :
    t'.readText p = t.readText p := by
  rw [readText, readText, h]

theorem readText_of_missing {t : FileTree} {p : Path} (h : t.entry p = .error .missing) :
    t.readText p = .error .missing := by
  rw [readText, h]
  rfl

section

variable {t : FileTree} {root p : Path} {top : Location} {suffix : String} {names : List String}
  {stem : String} {x : Trial} {plan : Plan} {options : Options}

/-- A result is about the output of the template. -/
theorem path_of_outcome {r : Result} (h : plan.outcome options x = .ok r) :
    r.path = x.job.destination := by
  rw [Plan.outcome] at h
  cases hrender : plan.render x.before x.job with
  | error f => simp [Plan.compileJob_of_error hrender] at h
  | ok text =>
    rw [Plan.compileJob_of_ok hrender] at h
    exact (Plan.reportOf_eq_ok.1 h).2

/-- What is needed to read an output that has a text. -/
structure Readable (t : FileTree) (job : Job) (dir : Location) (stem : String) : Prop where
  isIdle : Path.isIdle stem = false
  ne_up : stem ≠ ".."
  fits : Fits job.destination stem
  notDirectory : t.isDirectory (dir ++ [stem]) = false

/-- An output that can be read is a file. -/
theorem Sited.readable_of_readText (h : Sited t root top suffix x.job names stem)
    (hwell : t.WellFormed) (hlink : t.UnlinkedBelow top) (hframe : SameFrame t x.before)
    {text : String} (hread : x.before.readText x.job.destination = .ok text) :
    Readable t x.job (top ++ names) stem := by
  have hleads := h.leads_destination.of_sameFrame hframe
  have hname : ¬ (Path.isIdle stem = true ∨ stem = "..") := fun hspecial =>
    hleads.readText_special h.stem_ne hspecial (h.above hframe hwell) text hread
  obtain ⟨hidle, hup⟩ := not_or.1 hname
  have hidle : Path.isIdle stem = false := by simpa using hidle
  rw [hleads.readText_of_name hidle hup (hframe.unlinked (unlinked_concat hlink names stem))]
    at hread
  split at hread
  · rename_i hfits
    refine ⟨hidle, hup, hfits, ?_⟩
    rw [← hframe.directory, Bool.eq_false_iff]
    intro hdir
    rw [textAt, isDirectory_iff.1 hdir] at hread
    simp at hread
  · simp at hread

/-- **A reported output has the text of its template after the trial.** -/
theorem Sited.result_holds (h : Sited t root top suffix x.job names stem) (hwell : t.WellFormed)
    (hlink : t.UnlinkedBelow top) (hframe : SameFrame t x.before) (hdry : options.dryRun = false)
    {r : Result} (hout : plan.outcome options x = .ok r) :
    Readable t x.job (top ++ names) stem ∧
      ∃ text, plan.render x.before x.job = .ok text ∧
        (plan.after options x).readText x.job.destination = .ok text := by
  have hcases := h.compiled hlink hframe plan options.dryRun
  have hframe' := h.sameFrame_compileJob hlink hframe plan options.dryRun
  rw [Plan.outcome] at hout
  rw [Plan.after]
  generalize plan.compileJob options.dryRun x.before x.job = c at hcases hframe' hout
  rw [hdry] at hcases
  cases hcases with
  | unrendered f hrender => simp at hout
  | persisted text c hrender hpersist =>
    cases hpersist with
    | refused | undone => simp [Plan.reportOf] at hout
    | unchanged dryRun hread =>
      exact ⟨h.readable_of_readText hwell hlink hframe hread, text, hrender, hread⟩
    | written hread htemp hfile hname hfits =>
      rw [hframe.directory] at hfile
      refine ⟨⟨hname.1, hname.2, fits_of_temporaryFor hfits, hfile⟩, text, hrender, ?_⟩
      rw [(h.leads_destination.of_sameFrame hframe').readText_of_name hname.1 hname.2
          (hframe'.unlinked (unlinked_concat hlink names stem)),
        if_pos (fits_of_temporaryFor hfits), textAt, get?_put _ _ _ _ (by simp), if_pos rfl]
      exact decode_encode text

/-- A template whose output was written has a name for it. -/
theorem Sited.isName_of_written? (h : Sited t root top suffix x.job names stem)
    (hlink : t.UnlinkedBelow top) (hframe : SameFrame t x.before) {text : String}
    (hwritten : plan.written? options x = some text) :
    Path.isIdle stem = false ∧ stem ≠ ".." := by
  have hcases := h.compiled hlink hframe plan options.dryRun
  unfold Plan.written? Plan.outcome at hwritten
  generalize plan.compileJob options.dryRun x.before x.job = c at hcases hwritten
  generalize options.dryRun = dryRun at hcases
  cases hcases with
  | unrendered f hrender => simp at hwritten
  | persisted text c hrender hpersist =>
    cases hpersist with
    | unchanged | dry | refused | undone => simp [Plan.reportOf] at hwritten
    | written hread htemp hfile hname => exact hname

/-! ### After the trial -/

/-- What trials leave that write no text to a path: nothing, if it was a temporary file. -/
theorem lastLeft?_of_unwritten {xs : List Trial}
    (h : ∀ x ∈ xs, plan.left? options p x =
      if plan.Clears options p x then some (.error .missing) else none) :
    plan.lastLeft? options p xs = none ∧ (∀ x ∈ xs, ¬ plan.Clears options p x) ∨
      plan.lastLeft? options p xs = some (.error .missing) ∧ ∃ x ∈ xs, plan.Clears options p x := by
  induction xs with
  | nil => exact Or.inl ⟨rfl, by simp⟩
  | cons x xs ih =>
    rw [lastLeft?_cons, h x List.mem_cons_self]
    rcases ih fun y hy => h y (List.mem_cons_of_mem _ hy) with
      ⟨hlast, hnone⟩ | ⟨hlast, y, hy, hclears⟩
    · by_cases hx : plan.Clears options p x
      · exact Or.inr ⟨by simp [hlast, hx], x, List.mem_cons_self, hx⟩
      · refine Or.inl ⟨by simp [hlast, hx], fun y hy => ?_⟩
        rcases List.mem_cons.1 hy with rfl | hy
        · exact hx
        · exact hnone y hy
    · exact Or.inr ⟨by simp [hlast], y, List.mem_cons_of_mem _ hy, hclears⟩

/-- No other template writes a text to an output that can be read. -/
theorem Sited.left?_of_ne (h : Sited t root top suffix x.job names stem) {y : Trial}
    {names' : List String} {stem' : String} (h' : Sited t root top suffix y.job names' stem')
    (hroot : root.text ≠ "") (hlink : t.UnlinkedBelow top) (hframe : SameFrame t y.before)
    (hread : Readable t x.job (top ++ names) stem)
    (hne : x.job.source.components ≠ y.job.source.components) :
    plan.left? options x.job.destination y =
      if plan.Clears options x.job.destination y then some (.error .missing) else none := by
  have hnone : (if y.job.destination.components = x.job.destination.components then
      (plan.written? options y).map fun text => Except.ok (Entry.file (encode text)) else none) =
        (none : Option (Except FileError Entry)) := by
    by_cases heq : y.job.destination.components = x.job.destination.components
    · rw [if_pos heq]
      cases hwritten : plan.written? options y with
      | none => rfl
      | some text =>
        obtain ⟨hidle, hup⟩ := h'.isName_of_written? hlink hframe hwritten
        have hx := h.denotes_destination hroot hread.isIdle hread.ne_up
        have hy := h'.denotes_destination hroot hidle hup
        obtain ⟨rfl, rfl⟩ := (hy.components_eq_iff hx).1 heq
        exact absurd ⟨rfl, rfl⟩ (h.ne_of_components_ne h' hroot hne)
    · rw [if_neg heq]
  rw [Plan.left?, hnone, Option.none_or]

end

/-! ### After the run -/

section

variable {t : FileTree} {root : Path} {options : Options} {report : Report}

/-- Every result of a run is that of one of its trials. -/
theorem trial_of_result {plan : Plan} (hplan : prepare t root options.suffix = .ok plan)
    (h : (compile t root options).2 = .ok report) {r : Result} (hr : r ∈ report.results) :
    ∃ earlier x later, plan.tried options t = earlier ++ x :: later ∧
      plan.outcome options x = .ok r := by
  rw [compile_of_prepare hplan] at h
  obtain rfl := Except.ok.inj h
  have hr : r ∈ (plan.run options t).2.results := hr
  rw [results_run] at hr
  obtain ⟨x, hx, hresult⟩ := List.mem_filterMap.1 hr
  obtain ⟨earlier, later, hsplit⟩ := List.append_of_mem hx
  exact ⟨earlier, x, later, hsplit, resultOf?_eq_some.1 hresult⟩

/-- What was reported of a trial is true after the run exactly if no later trial used the output for
its temporary file. -/
theorem readText_of_trial (hwell : t.WellFormed)
    (hlink : ∀ top, t.resolve root = .ok top → t.UnlinkedBelow top) (hdry : options.dryRun = false)
    {plan : Plan} (hplan : prepare t root options.suffix = .ok plan) {earlier later : List Trial}
    {x : Trial} (hsplit : plan.tried options t = earlier ++ x :: later) {r : Result}
    (hout : plan.outcome options x = .ok r) :
    ∃ text, plan.render x.before x.job = .ok text ∧
      ((compile t root options).1.readText r.path = .ok text ↔
        ∀ y ∈ later, ¬ plan.Clears options r.path y) := by
  obtain ⟨top, htop, hroot, hjobs, hpairwise⟩ := sited_of_prepare hwell hlink hplan
  have hlink := hlink top htop
  have htried := sited_of_mem_tried hjobs options t
  have hframes := sameFrame_of_mem_tried hjobs hlink options
  have hx : x ∈ plan.tried options t := by simp [hsplit]
  have hlater : ∀ y ∈ later, y ∈ plan.tried options t := fun y hy => by simp [hsplit, hy]
  obtain ⟨names, stem, hsited⟩ := htried x hx
  obtain ⟨hread, text, hrender, htext⟩ := hsited.result_holds hwell hlink (hframes x hx) hdry hout
  have hleft : ∀ y ∈ later, plan.left? options x.job.destination y =
      if plan.Clears options x.job.destination y then some (.error .missing) else none := by
    intro y hy
    obtain ⟨names', stem', hsited'⟩ := htried y (hlater y hy)
    exact hsited.left?_of_ne hsited' hroot hlink (hframes y (hlater y hy)) hread
      (source_ne_of_tried (hpairwise.imp fun hab => hab.2) hsplit y hy)
  -- what happens after the trial starts from the tree in which the output has its text
  have hfinal := (hsplit ▸ course_run plan options t).split.2.entry_final hroot hlink
    (fun y hy => htried y (hlater y hy))
    (hsited.sameFrame_compileJob hlink (hframes x hx) plan options.dryRun)
    (hsited.denotes_destination hroot hread.isIdle hread.ne_up) hread.fits hread.notDirectory
  refine ⟨text, hrender, ?_⟩
  rw [compile_of_prepare hplan, path_of_outcome hout]
  rcases lastLeft?_of_unwritten hleft with ⟨hlast, hnone⟩ | ⟨hlast, y, hy, hclears⟩
  · rw [hlast] at hfinal
    exact iff_of_true ((readText_congr hfinal).trans htext) hnone
  · rw [hlast] at hfinal
    refine iff_of_false ?_ fun hnone => hnone y hy hclears
    simp [readText_of_missing hfinal]

/-- **A reported output has its text after the run exactly if it was no temporary file of a later
template.** -/
theorem compile_result_iff (hwell : t.WellFormed)
    (hlink : ∀ top, t.resolve root = .ok top → t.UnlinkedBelow top) (hdry : options.dryRun = false)
    (h : (compile t root options).2 = .ok report) :
    ∃ plan, prepare t root options.suffix = .ok plan ∧
      ∀ r ∈ report.results, ∃ earlier x later text,
        plan.tried options t = earlier ++ x :: later ∧ plan.outcome options x = .ok r ∧
          plan.render x.before x.job = .ok text ∧
          ((compile t root options).1.readText r.path = .ok text ↔
            ∀ y ∈ later, ¬ plan.Clears options r.path y) := by
  cases hprepare : prepare t root options.suffix with
  | error e => simp [compile_of_prepare_error hprepare] at h
  | ok plan =>
    refine ⟨plan, rfl, fun r hr => ?_⟩
    obtain ⟨earlier, x, later, hsplit, hout⟩ := trial_of_result hprepare h hr
    obtain ⟨text, hrender, hiff⟩ := readText_of_trial hwell hlink hdry hprepare hsplit hout
    exact ⟨earlier, x, later, text, hsplit, hout, hrender, hiff⟩

/-- Two templates, of which the first has the temporary file of the second as its output. -/
def claimed : FileTree :=
  ⟨.ofList [(["root"], .directory), (["root", "a.jellyforge.tmp.tera"], .file (encode "first")),
    (["root", "a.tera"], .file (encode "second"))], []⟩

/-- The templates of `claimed`. -/
def claimedJobs : List Job :=
  [⟨⟨"root/a.jellyforge.tmp.tera"⟩, ⟨"root/a.jellyforge.tmp"⟩⟩, ⟨⟨"root/a.tera"⟩, ⟨"root/a"⟩⟩]

theorem discover_claimed : discover claimed ⟨"root"⟩ "tera" = .ok ⟨claimedJobs, []⟩ :=
  discover_of_isFile rfl (by decide +kernel) (by decide +kernel) (by decide +kernel)
    (by decide +kernel) (by decide +kernel)

/-- The first output of `claimed` is reported as written and missing in the end: a later template
has taken it away. -/
theorem compile_result_claimed :
    ∃ (report : Report) (plan : Plan),
      (compile claimed ⟨"root"⟩ ⟨"tera", false, false⟩).2 = .ok report ∧
        ⟨.written, ⟨"root/a.jellyforge.tmp"⟩⟩ ∈ report.results ∧
        (∀ text, (compile claimed ⟨"root"⟩ ⟨"tera", false, false⟩).1.readText
          ⟨"root/a.jellyforge.tmp"⟩ ≠ .ok text) ∧
        ∃ earlier x later, plan.tried ⟨"tera", false, false⟩ claimed = earlier ++ x :: later ∧
          plan.outcome ⟨"tera", false, false⟩ x = .ok ⟨.written, ⟨"root/a.jellyforge.tmp"⟩⟩ ∧
          ∃ y ∈ later, plan.Clears ⟨"tera", false, false⟩ ⟨"root/a.jellyforge.tmp"⟩ y := by
  have hprepare := prepare_of_isFile discover_claimed (by decide +kernel)
  have hcompile : compile claimed ⟨"root"⟩ ⟨"tera", false, false⟩ = _ :=
    compile_of_prepare hprepare
  have hreport := congrArg Prod.snd hcompile
  obtain ⟨plan, -, hresults⟩ := compile_result_iff (wellFormed_of_entries (by decide +kernel))
    (fun top _ => unlinkedBelow_of_entries (by decide +kernel) top) rfl hreport
  have hgone : ∀ text, (compile claimed ⟨"root"⟩ ⟨"tera", false, false⟩).1.readText
      ⟨"root/a.jellyforge.tmp"⟩ ≠ .ok text := by
    rw [hcompile]
    exact ne_ok_of_isOk (by decide +kernel)
  obtain ⟨earlier, x, later, text, hsplit, hout, -, hiff⟩ :=
    hresults ⟨.written, ⟨"root/a.jellyforge.tmp"⟩⟩ (by decide +kernel)
  have hcleared : ¬ ∀ y ∈ later, ¬ plan.Clears ⟨"tera", false, false⟩ ⟨"root/a.jellyforge.tmp"⟩ y :=
    fun hnone => hgone text (hiff.2 hnone)
  refine ⟨_, plan, hreport, by decide +kernel, hgone, earlier, x, later, hsplit, hout, ?_⟩
  simpa using hcleared

/-- Reports are true if no output of a template is the temporary file of another one. -/
theorem compile_result_of_apart (hwell : t.WellFormed)
    (hlink : ∀ top, t.resolve root = .ok top → t.UnlinkedBelow top) (hdry : options.dryRun = false)
    {plan : Plan} (hplan : prepare t root options.suffix = .ok plan)
    (h : (compile t root options).2 = .ok report)
    (hapart : ∀ job ∈ plan.discovery.jobs, ∀ other ∈ plan.discovery.jobs,
      (temporaryFor other.destination).components ≠ job.destination.components) :
    ∀ r ∈ report.results, ∃ x ∈ plan.tried options t, ∃ text, plan.outcome options x = .ok r ∧
      plan.render x.before x.job = .ok text ∧
      (compile t root options).1.readText r.path = .ok text := by
  intro r hr
  obtain ⟨earlier, x, later, hsplit, hout⟩ := trial_of_result hplan h hr
  obtain ⟨text, hrender, hiff⟩ := readText_of_trial hwell hlink hdry hplan hsplit hout
  have hmem : ∀ y ∈ plan.tried options t, y.job ∈ plan.discovery.jobs := fun y hy =>
    (jobs_tried plan options t).subset (List.mem_map_of_mem hy)
  rw [hsplit] at hmem ⊢
  refine ⟨x, by simp, text, hout, hrender, hiff.2 fun y hy hclears => ?_⟩
  rw [path_of_outcome hout] at hclears
  exact hapart x.job (hmem x (by simp)) y.job (hmem y (by simp [hy])) hclears.1

end

end Compile

end JellyViews
