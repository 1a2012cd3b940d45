/-
**What the user gets to see of a run.**

A run recovers from failures, so they have to be told: `compile` prints a line for each result and
for each failure, shows whether everything went well, and says so again with its exit code.  There
is one exception.  If no template was found, the output ends with this remark, which has the mark of
a success; but entries with the name of a template that could not be looked at are failures then
too, and only the exit code and the count of failures tell of them.

Main definitions:

* `Command.TellsResult`, `Command.TellsFailure` — the line of a result, and of a failure;
* `Command.ShowsSuccess` — a first line with the mark of a success;
* `Command.Told`, `Command.Surfaced` — an output in which a report is told completely.

Main results:

* `Command.exists_head_of_linesText` — what has no line break ends before the first one;
* `Command.surfaced_of_discovered` — **the report on any templates is told completely**;
* `Command.surfaced_iff_of_none` — without templates it is told only if nothing failed;
* `Command.compile_surfaces` — **which failures a command line hides**, and its exit code;
* `Command.compile_surfaces_dangling` — a link with the name of a template, which leads nowhere.
-/

import JellyViews.Command.Run
import JellyViews.Proofs.Compile.Finding
import JellyViews.Proofs.Compile.Single
import Mathlib.Data.List.Forall2
import Mathlib.Tactic.ByContra

set_option relaxedAutoImplicit false
set_option autoImplicit false

namespace JellyViews

namespace Command

open Compile (Options Result Failure Report)

/-! ### Lines -/

section

variable {style : Style} {r : Report} {line : String}

/-- The line tells of a result, with its path. -/
def TellsResult (r : Report) (x : Result) (line : String) : Prop :=
  line = "  " ++ statusMark x.status ++ "  " ++ shortPath r.root x.path

/-- The line tells of a failure, with its path, its kind and its message. -/
def TellsFailure (r : Report) (f : Failure) (line : String) : Prop :=
  ∃ front, line =
    front ++ shortPath r.root f.source ++ " (" ++ f.kind.text ++ "): " ++ f.message

/-- The line begins with the mark of a success, which may be coloured. -/
def ShowsSuccess (style : Style) (r : Report) (line : String) : Prop :=
  ∃ mark rest, (mark = successMark ∨ mark = painted style "1;32" successMark) ∧
    line = dryMark r ++ mark ++ rest

theorem tellsResult_resultLine (r : Report) (x : Result) : TellsResult r x (resultLine r x) := rfl

theorem tellsFailure_failureLine (style : Style) (r : Report) (f : Failure) :
    TellsFailure r f (failureLine style r f) := ⟨_, rfl⟩

theorem showsSuccess_append {mark : String} (rest : String)
    (h : mark = successMark ∨ mark = painted style "1;32" successMark) :
    ShowsSuccess style r (dryMark r ++ (mark ++ rest)) :=
  ⟨mark, rest, h, String.append_assoc.symm⟩

/-- A mark of a failure is no mark of a success, in colours or without. -/
theorem append_failureMark_ne {mark : String} (rest s : String)
    (h : mark = successMark ∨ mark = painted style "1;32" successMark) :
    mark ++ rest ≠ painted style "1;31" failureMark ++ s := by
  intro heq
  have hlist := congrArg String.toList heq
  simp only [String.toList_append] at hlist
  unfold painted successMark failureMark at *
  obtain rfl | rfl := h <;> cases hcolored : style.colored <;> simp [hcolored] at hlist

/-- The first line has the mark of a success exactly if everything went well. -/
theorem showsSuccess_summaryLine_iff :
    ShowsSuccess style r (summaryLine style r) ↔ r.isSuccess = true := by
  unfold summaryLine
  constructor
  · rintro ⟨mark, rest, hmark, hline⟩
    by_contra hfailed
    rw [if_neg hfailed] at hline
    simp only [String.append_assoc, String.append_right_inj] at hline
    exact append_failureMark_ne rest _ hmark hline.symm
  · intro hsuccess
    rw [if_pos hsuccess]
    simp only [String.append_assoc]
    exact showsSuccess_append _ (.inr rfl)

/-! ### Outputs -/

/-- The lines of an output tell all of a report: the first one whether everything went well, and
then there is one for each result and one for each failure. -/
structure Told (style : Style) (r : Report) (head : String) (results failures rest : List String) :
    Prop where
  success : ShowsSuccess style r head ↔ r.isSuccess = true
  results : List.Forall₂ (TellsResult r) r.results results
  failures : List.Forall₂ (TellsFailure r) r.failures failures
  /-- Only a run that was stopped has more to tell. -/
  rest : r.aborted = false → rest = []

/-- A report is told completely. -/
def Surfaced (style : Style) (r : Report) (stdout : String) : Prop :=
  ∃ head results failures rest, stdout = linesText (head :: results ++ failures ++ rest) ∧
    Told style r head results failures rest

/-- **The report on any templates is told completely.** -/
theorem surfaced_of_discovered (h : r.discovered ≠ 0) :
    Surfaced style r (linesText (reportLines style r)) := by
  rw [reportLines, if_neg h]
  refine ⟨_, _, _, _, rfl, ?_⟩
  constructor
  case success => exact showsSuccess_summaryLine_iff
  case results =>
    exact List.forall₂_map_right_iff.2 (List.forall₂_same.2 fun x _ => tellsResult_resultLine r x)
  case failures =>
    exact List.forall₂_map_right_iff.2
      (List.forall₂_same.2 fun f _ => tellsFailure_failureLine style r f)
  case rest =>
    intro hdone
    simp [hdone]

/-- What has no line break is the front of the first line if it is the front of all lines. -/
theorem exists_head_of_linesText {front rest head : String} {lines : List String}
    (hbreak : '\n' ∉ front.toList) (h : linesText (head :: lines) = front ++ rest) :
    ∃ s, head = front ++ s := by
  have hlist := congrArg String.toList h
  simp only [linesText, List.map_cons, String.join_cons, String.toList_append] at hlist
  rw [List.append_assoc] at hlist
  obtain ⟨cs, hfront, hcs⟩ | ⟨cs, hhead, -⟩ := List.append_eq_append_iff.1 hlist
  · cases cs with
    | nil => exact ⟨"", by simpa [← String.toList_inj] using hfront.symm⟩
    | cons c cs =>
      obtain ⟨rfl, -⟩ := List.cons.inj (show '\n' :: _ = c :: _ from hcs)
      exact absurd (hfront ▸ List.mem_append_right _ List.mem_cons_self) hbreak
  · exact ⟨String.ofList cs, by simpa [← String.toList_inj] using hhead⟩

/-- The one line that is printed if no template was found. -/
theorem linesText_of_none (h : r.discovered = 0) :
    linesText (reportLines style r) =
      dryMark r ++ successMark ++ (" '" ++ r.root.text ++ "' — no templates found\n") := by
  rw [reportLines, if_pos h]
  simp only [linesText, List.map_cons, List.map_nil, String.join_cons, String.join_nil,
    String.append_assoc, String.append_empty]
  rfl

theorem newline_notMem_dryMark_append (r : Report) :
    '\n' ∉ (dryMark r ++ successMark).toList := by
  unfold dryMark successMark
  cases r.dryRun <;> decide

/-- **Without templates a report is told only if nothing failed.** -/
theorem surfaced_iff_of_none (h : r.discovered = 0) (hresults : r.results = [])
    (hdone : r.aborted = false) :
    Surfaced style r (linesText (reportLines style r)) ↔ r.failures = [] := by
  have htext : linesText (reportLines style r) = _ := linesText_of_none h
  constructor
  · rintro ⟨head, results, failures, rest, hlines, htold⟩
    -- the line that is printed has the mark of a success
    obtain ⟨s, hhead⟩ := exists_head_of_linesText (newline_notMem_dryMark_append r)
      (hlines.symm.trans htext)
    have hsuccess := htold.success.1 ⟨successMark, s, .inl rfl, hhead⟩
    simpa [Report.isSuccess, hdone] using hsuccess
  · intro hfailures
    rw [reportLines, if_pos h]
    refine ⟨_, [], [], [], rfl, ?_⟩
    constructor
    case success =>
      have hsuccess : r.isSuccess = true := by simp [Report.isSuccess, hfailures, hdone]
      simp only [String.append_assoc]
      exact iff_of_true (showsSuccess_append _ (.inl rfl)) hsuccess
    case results => exact hresults ▸ .nil
    case failures => exact hfailures ▸ .nil
    case rest => exact fun _ => rfl

end

/-! ### Reports of runs -/

/-- A run that found no template has no results, and it was not stopped. -/
theorem report_of_none {t : FileTree} {root : Path} {options : Options} {report : Report}
    (h : (Compile.compile t root options).2 = .ok report) (hnone : report.discovered = 0) :
    report.root = root ∧ report.results = [] ∧ report.aborted = false := by
  cases hprepare : Compile.prepare t root options.suffix with
  | error e => simp [Compile.compile_of_prepare_error hprepare] at h
  | ok plan =>
    rw [Compile.compile_of_prepare hprepare] at h
    obtain rfl := Except.ok.inj h
    have hjobs : plan.discovery.jobs = [] := List.length_eq_zero_iff.1 hnone
    refine ⟨(Compile.prepare_eq_ok hprepare).2, ?_⟩
    unfold Compile.Plan.report Compile.Plan.run
    split <;> simp [hjobs, Compile.Progress.stopped, Compile.Plan.runAll, Compile.Progress.done]

section

variable {t : FileTree} {words : List String} {root : Path} {options : Options}

theorem run_of_error (style : Style) {e : CompileError}
    (h : request words = .ok (.compile root options false))
    (he : (Compile.compile t root options).2 = .error e) :
    (run style t words).2 =
      ⟨1, "", errorText ("compile failed for '" ++ root.text ++ "'") e.causes⟩ := by
  simp only [run, h, Request.perform]
  split
  · simp_all
  · rename_i he'
    rw [he'] at he
    obtain rfl := Except.error.inj he
    rfl

theorem run_of_report (style : Style) {report : Report}
    (h : request words = .ok (.compile root options false))
    (hreport : (Compile.compile t root options).2 = .ok report) :
    (run style t words).2 = compiledOutput style report false := by
  simp only [run, h, Request.perform]
  split
  · rename_i hreport'
    rw [hreport'] at hreport
    obtain rfl := Except.ok.inj hreport
    rfl
  · simp_all

/-- The exit code tells whether everything went well. -/
theorem code_compiledOutput_iff (style : Style) (r : Report) (json : Bool) :
    (compiledOutput style r json).code = 0 ↔ r.isSuccess = true := by
  unfold compiledOutput Output.of
  cases r.isSuccess <;> simp

theorem stdout_compiledOutput (style : Style) (r : Report) :
    (compiledOutput style r false).stdout = linesText (reportLines style r) := by
  unfold compiledOutput Output.of
  cases r.isSuccess <;> rfl

/-- **Which failures a command line hides.**  A run that was given up and a run in which something
failed have an exit code other than zero, and no other run has.  The report of a run is told
completely, unless no template was found and something failed: then there is only the remark that
none was found. -/
theorem compile_surfaces (style : Style) (t : FileTree)
    (h : request words = .ok (.compile root options false)) :
    (∀ e, (Compile.compile t root options).2 = .error e → (run style t words).2.code ≠ 0) ∧
      ∀ report, (Compile.compile t root options).2 = .ok report →
        ((run style t words).2.code = 0 ↔ report.isSuccess = true) ∧
        (Surfaced style report (run style t words).2.stdout ↔
          (report.discovered = 0 → report.failures = [])) ∧
        (report.discovered = 0 → (run style t words).2.stdout =
          dryMark report ++ successMark ++ (" '" ++ root.text ++ "' — no templates found\n")) := by
  refine ⟨fun e he => ?_, fun report hreport => ?_⟩
  · rw [run_of_error style h he]
    exact Nat.one_ne_zero
  rw [run_of_report style h hreport, stdout_compiledOutput]
  refine ⟨code_compiledOutput_iff style report false, ?_, fun hnone => ?_⟩
  · by_cases hnone : report.discovered = 0
    · obtain ⟨-, hresults, hdone⟩ := report_of_none hreport hnone
      rw [surfaced_iff_of_none hnone hresults hdone]
      exact ⟨fun hfailures _ => hfailures, fun hfailures => hfailures hnone⟩
    · exact iff_of_true (surfaced_of_discovered hnone) fun hzero => absurd hzero hnone
  · rw [linesText_of_none hnone, (report_of_none hreport hnone).1]

end

/-- A link with the name of a template, which leads nowhere. -/
def dangling : FileTree :=
  ⟨.ofList [(["root"], .directory), (["root", "a.tera"], .link "missing")], []⟩

/-- The failure that a run over `dangling` reports. -/
def danglingFailure : Failure := .ofReading ⟨"root/a.tera"⟩ .missing

theorem discover_dangling :
    Compile.discover dangling ⟨"root"⟩ "tera" = .ok ⟨[], [danglingFailure]⟩ := by
  have hroot : dangling.resolve ⟨"root"⟩ = .ok ["root"] := by decide +kernel
  have hdir : dangling.isDirectory ["root"] = true := by decide +kernel
  have hnames : dangling.names ["root"] = ["a.tera"] := by
    rw [FileTree.names_of_pairwise] <;> decide +kernel
  have hchild : Path.join ⟨"root"⟩ "a.tera" = ⟨"root/a.tera"⟩ := by decide +kernel
  have hlink : dangling.resolve ⟨"root/a.tera"⟩ = .error .missing := by decide +kernel
  have hnamed : (Compile.destinationFor ⟨"root/a.tera"⟩ "tera").isSome = true := by
    decide +kernel
  unfold Compile.discover Compile.searchBelow FileTree.listing Compile.children
  simp only [hroot, hdir, hnames, bind, Except.bind, pure, Except.pure, if_true, List.map_cons,
    List.map_nil, hchild]
  rw [Compile.search]
  simp only [hlink, hnamed, if_true]
  rw [Compile.search]
  simp [Compile.Found.underDirectory, Compile.Found.underFailure, Compile.Found.nothing,
    danglingFailure]

/-- The link of `dangling` is a failure, and the output has the mark of a success. -/
theorem compile_surfaces_dangling :
    ∃ report, (Compile.compile dangling ⟨"root"⟩ ⟨"tera", false, false⟩).2 = .ok report ∧
      report.failures = [danglingFailure] ∧
      (run ⟨false, "", ""⟩ dangling ["compile", "root"]).2.code ≠ 0 ∧
      (run ⟨false, "", ""⟩ dangling ["compile", "root"]).2.stdout =
        "✓ 'root' — no templates found\n" ∧
      ¬ Surfaced ⟨false, "", ""⟩ report
        (run ⟨false, "", ""⟩ dangling ["compile", "root"]).2.stdout := by
  let report : Report := ⟨⟨"root"⟩, 0, false, false, [], [danglingFailure]⟩
  have hplain : dangling.isFile (Extension.pathIn ⟨"root"⟩) = false := by decide +kernel
  have hprepare := Compile.prepare_of_isFile discover_dangling hplain
  have hcompile : (Compile.compile dangling ⟨"root"⟩ ⟨"tera", false, false⟩).2 = _ :=
    congrArg Prod.snd (Compile.compile_of_prepare hprepare)
  have hreport := hcompile.trans (show _ = .ok report from rfl)
  have hrequest : request ["compile", "root"] =
      .ok (.compile ⟨"root"⟩ ⟨"tera", false, false⟩ false) := rfl
  obtain ⟨hcode, hsurfaced, hstdout⟩ :=
    (compile_surfaces ⟨false, "", ""⟩ dangling hrequest).2 report hreport
  refine ⟨report, hreport, rfl, ?_, hstdout rfl, ?_⟩
  · simp [hcode, report, Report.isSuccess]
  · simp [hsurfaced, report]

end Command

end JellyViews
