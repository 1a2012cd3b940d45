/-
**Why a template has no output.**

A failure belongs to one template, or to one entry that could not be looked at.  It never ends a run
by itself.

Main definitions:

* `Compile.FailureKind`, `Compile.Failure` — failures and their kinds;
* `Compile.Failure.ofReading`, `Compile.Failure.ofRendering`, `Compile.Failure.ofWriting`,
  `Compile.Failure.ofComparing` — the failures of the steps.

Main results:

* `Compile.Failure.kind_ofRendering` — a failure is about an attribute if its report is.
-/

import JellyViews.FileTree.Basic
import JellyViews.Path
import JellyViews.Template.Fault

set_option relaxedAutoImplicit false
set_option autoImplicit false

namespace JellyViews

namespace Compile

/-! ### Kinds -/

/-- The step at which a template failed. -/
inductive FailureKind where
  /-- The source could not be read. -/
  | read
  /-- The template could not be evaluated. -/
  | evaluation
  /-- A tag was given a value that has no form as an attribute. -/
  | invalidAttribute
  /-- The output could not be written, or not be compared. -/
  | persist
deriving DecidableEq

namespace FailureKind

/-- The kind as a reader sees it. -/
def text : FailureKind → String
  | read => "read"
  | evaluation => "evaluation"
  | invalidAttribute => "invalid attribute"
  | persist => "persist"

/-- The kind as a program reads it. -/
def key : FailureKind → String
  | read => "read"
  | evaluation => "evaluation"
  | invalidAttribute => "invalid_attribute"
  | persist => "persist"

end FailureKind

/-! ### Failures -/

/-- A template, or another entry, and what went wrong with it. -/
structure Failure where
  source : Path
  kind : FailureKind
  message : String
deriving DecidableEq

namespace Failure

/-- The source could not be read. -/
def ofReading (source : Path) (error : FileError) : Failure := ⟨source, .read, error.message⟩

/-- The template could not be rendered. -/
def ofRendering (source : Path) (error : RenderError) : Failure :=
  ⟨source, if error.isInvalidAttribute then .invalidAttribute else .evaluation, error.message⟩

/-- The output could not be written. -/
def ofWriting (source destination : Path) (error : FileError) : Failure :=
  ⟨source, .persist, "cannot write " ++ destination.text ++ ": " ++ error.message⟩

/-- The output of an earlier run could not be read. -/
def ofComparing (source destination : Path) (error : FileError) : Failure :=
  ⟨source, .persist, "cannot read existing " ++ destination.text ++ ": " ++ error.message⟩

theorem kind_ofRendering (source : Path) (error : RenderError) :
    (ofRendering source error).kind = .invalidAttribute ↔ error.isInvalidAttribute = true := by
  unfold ofRendering
  split <;> simp_all

end Failure

end Compile

end JellyViews
