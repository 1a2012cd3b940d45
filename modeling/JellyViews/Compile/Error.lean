/-
**Why a whole run is given up.**

A run looks for the templates and for declared tags before it renders anything.  If one of the two
fails, nothing is written.

Main definitions:

* `CompileError` — the causes;
* `CompileError.message`, `CompileError.causes` — the report of a cause, and of what is behind it.
-/

import JellyViews.Extension.Error

set_option relaxedAutoImplicit false
set_option autoImplicit false

namespace JellyViews

/-- A cause for which a run is given up. -/
inductive CompileError where
  /-- The root could not be listed. -/
  | unlistable (root : Path) (error : FileError)
  /-- The declared tags could not be registered. -/
  | extension (error : ExtensionError)
deriving DecidableEq

namespace CompileError

/-- The report of a cause. -/
def message : CompileError → String
  | unlistable root error =>
    "cannot enumerate templates under " ++ root.text ++ ": " ++ error.message
  | extension error => "extension error: " ++ error.message

/-- The report and the reports of what is behind it. -/
def causes : CompileError → List String
  | unlistable root error => [message (unlistable root error), error.message]
  | extension error => message (extension error) :: error.causes

end CompileError

end JellyViews
