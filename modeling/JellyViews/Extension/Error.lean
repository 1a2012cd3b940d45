/-
**What can go wrong with declared tags.**

Main definitions:

* `ExtensionError` — the causes;
* `ExtensionError.message`, `ExtensionError.causes` — the report of a cause, and of what is behind
  it.
-/

import JellyViews.Extension.Definition
import JellyViews.FileTree.Files

set_option relaxedAutoImplicit false
set_option autoImplicit false

namespace JellyViews

/-- A cause for which declared tags are not registered. -/
inductive ExtensionError where
  /-- The file could not be read. -/
  | unreadable (path : Path) (error : FileError)
  /-- The text of the file declares no tags in the expected form. -/
  | malformed (path : Path)
  /-- There is something wrong with a definition. -/
  | invalid (name : String) (defect : Extension.Defect)
  /-- The name of a definition is taken. -/
  | rejected (error : TagError)
deriving DecidableEq

namespace ExtensionError

/-- The report of a cause. -/
def message : ExtensionError → String
  | unreadable path error => "I/O error at " ++ path.text ++ ": " ++ error.message
  | malformed path => "failed to parse extension file " ++ path.text
  | invalid name defect => "invalid extension tag '" ++ name ++ "': " ++ defect.message
  | rejected error => "extension tag rejected: " ++ error.message

/-- The report and the reports of what is behind it. -/
def causes : ExtensionError → List String
  | unreadable path error => [message (unreadable path error), error.message]
  | malformed path => [message (malformed path)]
  | invalid name defect => [message (invalid name defect)]
  | rejected error => [message (rejected error), error.message]

end ExtensionError

end JellyViews
