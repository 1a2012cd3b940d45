/-
**Compiling a tree of templates.**

The templates are compiled one after the other, each in the tree that the ones before it left.  A
template that fails does not keep the others from being compiled, unless the run is to stop at the
first failure; an entry that could not be looked at counts as a failure before all templates.

Main definitions:

* `Compile.Plan`, `Compile.prepare` — what a run knows before it renders anything;
* `Compile.Plan.render`, `Compile.Plan.compileJob` — one template;
* `Compile.Progress`, `Compile.Plan.runAll` — templates in a row;
* `Compile.compile` — the run.

Main results:

* `Compile.compile_error` — a run that is given up changes no file.
-/

import JellyViews.Compile.Discovery
import JellyViews.Compile.Error
import JellyViews.Compile.Report
import JellyViews.Extension.File
import JellyViews.Template.Engine

set_option relaxedAutoImplicit false
set_option autoImplicit false

namespace JellyViews

namespace Compile

open Tag

/-! ### Plans -/

/-- What a run knows before it renders anything. -/
structure Plan where
  root : Path
  registry : Registry
  discovery : Discovery

/-- Finds the templates, and then the tags they may use. -/
def prepare (t : FileTree) (root : Path) (suffix : String) : Except CompileError Plan :=
  match discover t root suffix with
  | .error e => .error (.unlistable root e)
  | .ok discovery =>
    match Extension.registryFor t root with
    | .error e => .error (.extension e)
    | .ok registry => .ok ⟨root, registry, discovery⟩

namespace Plan

/-! ### One template -/

/-- The variables of a template. -/
def varsOf (plan : Plan) (job : Job) : Template.Variables :=
  ⟨job.sourceName plan.root, job.destinationName plan.root⟩

/-- Evaluates the text of a template. -/
def evaluate (plan : Plan) (job : Job) (source : String) : Except Failure String :=
  match Template.render plan.registry (job.sourceName plan.root) source (plan.varsOf job) with
  | .ok text => .ok text
  | .error e => .error (.ofRendering job.source e)

/-- Reads and evaluates a template. -/
def render (plan : Plan) (t : FileTree) (job : Job) : Except Failure String :=
  match t.readText job.source with
  | .ok source => plan.evaluate job source
  | .error e => .error (.ofReading job.source e)

/-- Renders a template and gives its output the text. -/
def compileJob (plan : Plan) (dryRun : Bool) (t : FileTree) (job : Job) :
    FileTree × Except Failure Result :=
  match plan.render t job with
  | .error failure => (t, .error failure)
  | .ok text =>
    match persist t job.destination text dryRun with
    | (t', .ok status) => (t', .ok ⟨status, job.destination⟩)
    | (t', .error e) => (t', .error (.ofWriting job.source job.destination e))

/-! ### Templates in a row -/

end Plan

/-- What became of a row of templates. -/
structure Progress where
  results : List Result
  failures : List Failure
  /-- The templates that were not tried. -/
  untried : List Job

namespace Progress

/-- No template was there. -/
def done : Progress := ⟨[], [], []⟩

/-- No template was tried. -/
def stopped (jobs : List Job) : Progress := ⟨[], [], jobs⟩

/-- A template succeeded before. -/
def underResult (x : Result) (p : Progress) : Progress := { p with results := x :: p.results }

/-- A template failed before. -/
def underFailure (f : Failure) (p : Progress) : Progress := { p with failures := f :: p.failures }

end Progress

namespace Plan

/-- Compiles templates one after the other. -/
def runAll (plan : Plan) (options : Options) : FileTree → List Job → FileTree × Progress
  | t, [] => (t, .done)
  | t, job :: jobs =>
    match plan.compileJob options.dryRun t job with
    | (t', .ok x) =>
      let (final, progress) := runAll plan options t' jobs
      (final, progress.underResult x)
    | (t', .error f) =>
      if options.failFast then (t', (Progress.stopped jobs).underFailure f)
      else
        let (final, progress) := runAll plan options t' jobs
        (final, progress.underFailure f)

/-- Compiles all templates; an entry that could not be looked at may stop the run at once. -/
def run (plan : Plan) (options : Options) (t : FileTree) : FileTree × Progress :=
  if options.failFast && !plan.discovery.unreadable.isEmpty then (t, .stopped plan.discovery.jobs)
  else plan.runAll options t plan.discovery.jobs

/-- The report on what became of the templates. -/
def report (plan : Plan) (options : Options) (progress : Progress) : Report :=
  { root := plan.root
    discovered := plan.discovery.jobs.length
    dryRun := options.dryRun
    aborted := !progress.untried.isEmpty
    results := progress.results
    failures := plan.discovery.unreadable ++ progress.failures }

end Plan

/-! ### The run -/

/-- Compiles the templates below a root. -/
def compile (t : FileTree) (root : Path) (options : Options) :
    FileTree × Except CompileError Report :=
  match prepare t root options.suffix with
  | .error e => (t, .error e)
  | .ok plan =>
    let (final, progress) := plan.run options t
    (final, .ok (plan.report options progress))

theorem compile_error {t : FileTree} {root : Path} {options : Options} {e : CompileError}
    (h : (compile t root options).2 = .error e) : (compile t root options).1 = t := by
  unfold compile at *
  split <;> simp_all

end Compile

end JellyViews
