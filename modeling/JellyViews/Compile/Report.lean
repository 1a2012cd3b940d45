/-
**What a run did.**

Every template ends up among the results or among the failures of the report, unless the run was
stopped before.

Main definitions:

* `Compile.Options` — how to run;
* `Compile.Result`, `Compile.Report` — what became of a template, and of all of them;
* `Compile.Report.isSuccess` — whether everything went well.
-/

import JellyViews.Compile.Failure
import JellyViews.Compile.Persist

set_option relaxedAutoImplicit false
set_option autoImplicit false

namespace JellyViews

namespace Compile

/-- The suffix of templates, unless another one is given. -/
def defaultSuffix : String := "tera"

/-- How to run. -/
structure Options where
  /-- What the names of templates end with, behind a dot. -/
  suffix : String := defaultSuffix
  /-- Whether to write nothing. -/
  dryRun : Bool := false
  /-- Whether to stop at the first failure. -/
  failFast : Bool := false

/-- What became of the output of a template. -/
structure Result where
  status : Status
  path : Path
deriving DecidableEq

/-- What a run did. -/
structure Report where
  root : Path
  /-- The number of templates that were found. -/
  discovered : Nat
  dryRun : Bool
  /-- Whether the run was stopped before every template was tried. -/
  aborted : Bool
  results : List Result
  failures : List Failure
deriving DecidableEq

namespace Report

/-- The number of outputs that were written, or would have been. -/
def writtenCount (r : Report) : Nat :=
  r.results.countP fun x => x.status = .written ∨ x.status = .wouldWrite

/-- The number of outputs that were as they should be. -/
def unchangedCount (r : Report) : Nat := r.results.countP fun x => x.status = .unchanged

/-- The number of failures. -/
def failedCount (r : Report) : Nat := r.failures.length

/-- Whether nothing failed and every template was tried. -/
def isSuccess (r : Report) : Bool := r.failures.isEmpty && !r.aborted

end Report

end Compile

end JellyViews
