/-
**Replacing the text of a file.**

A new text is written to a temporary file next to the old one, which is then renamed.  So the file
has either its old text or the new one, and the temporary file is gone in both cases.  A file that
has the text already is left alone.

Main definitions:

* `Compile.temporaryFor` — the path of the temporary file;
* `Compile.replaceText` — writing and renaming, or taking the temporary file away;
* `Compile.Status`, `Compile.persist` — replacing a text where it differs.

Main results:

* `Compile.persist_dryRun` — a dry run changes no file;
* `Compile.persist_of_readText` — nor does a run that finds the text already there.
-/

import JellyViews.FileTree.Files

set_option relaxedAutoImplicit false
set_option autoImplicit false

namespace JellyViews

namespace Compile

/-! ### Temporary files -/

/-- What the name of a temporary file ends with. -/
def temporarySuffix : String := ".jellyforge.tmp"

/-- The path of the temporary file. -/
def temporaryFor (p : Path) : Path := ⟨p.text ++ temporarySuffix⟩

/-- Writes the temporary file and gives it the name of the file.  If that fails, the temporary
file is taken away. -/
def replaceText (t : FileTree) (p : Path) (text : String) : FileTree × Except FileError Unit :=
  match t.writeText (temporaryFor p) text with
  | .error e => (t.unlink (temporaryFor p), .error e)
  | .ok written =>
    match written.rename (temporaryFor p) p with
    | .error e => (written.unlink (temporaryFor p), .error e)
    | .ok renamed => (renamed, .ok ())

/-! ### Persisting -/

/-- What became of an output. -/
inductive Status where
  /-- The file has the new text. -/
  | written
  /-- The file had the text before. -/
  | unchanged
  /-- The file would get the text in a run that is not dry. -/
  | wouldWrite
deriving DecidableEq

/-- The status as a program reads it. -/
def Status.key : Status → String
  | written => "written"
  | unchanged => "unchanged"
  | wouldWrite => "would_write"

/-- Whether the file has the text. -/
def holds (t : FileTree) (p : Path) (text : String) : Bool :=
  match t.readText p with
  | .ok s => s == text
  | .error _ => false

/-- Gives a file the text, if it does not have it yet and the run is not dry. -/
def persist (t : FileTree) (p : Path) (text : String) (dryRun : Bool) :
    FileTree × Except FileError Status :=
  if holds t p text then (t, .ok .unchanged)
  else if dryRun then (t, .ok .wouldWrite)
  else
    match replaceText t p text with
    | (t', .ok ()) => (t', .ok .written)
    | (t', .error e) => (t', .error e)

theorem holds_iff {t : FileTree} {p : Path} {text : String} :
    holds t p text = true ↔ t.readText p = .ok text := by
  unfold holds
  split <;> simp_all

theorem persist_dryRun (t : FileTree) (p : Path) (text : String) :
    (persist t p text true).1 = t := by
  unfold persist
  split <;> rfl

theorem persist_of_readText {t : FileTree} {p : Path} {text : String}
    (h : t.readText p = .ok text) (dryRun : Bool) :
    persist t p text dryRun = (t, .ok .unchanged) := by
  simp [persist, holds_iff.2 h]

end Compile

end JellyViews
