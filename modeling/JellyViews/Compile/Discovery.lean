/-
**Finding templates.**

A template is a file whose name ends with a dot and the suffix, behind at least one other character;
its output goes next to it, under the name without this ending.  All directories below the root are
listed, through links too, but no directory is listed twice: the directories that are still to be
listed only get fewer, so the search ends.

Main definitions:

* `Compile.destinationFor` — the path of the output of a template;
* `Compile.Job`, `Compile.Discovery` — a template with its output, and all that was found;
* `Compile.search` — the files below pending paths, in the order in which they are met;
* `Compile.discover` — the templates below a root, in the order of paths.

Main results:

* `Compile.Found.files_underFile` and its like — what is met first comes first;
* `Compile.length_erase_lt` — listing a directory leaves fewer that are still to be listed.
-/

import JellyViews.Compile.Failure
import JellyViews.FileTree.Files

set_option relaxedAutoImplicit false
set_option autoImplicit false

namespace JellyViews

namespace Compile

/-! ### Destinations -/

/-- The text in front of an ending, if the text has this ending. -/
def stripEnd? (ending text : List Char) : Option (List Char) :=
  if ending.isSuffixOf text then some (text.take (text.length - ending.length)) else none

/-- The name without a dot and the suffix at its end, unless nothing is left. -/
def stemOf? (suffix name : String) : Option String :=
  match stripEnd? ('.' :: suffix.toList) name.toList with
  | some (c :: cs) => some (String.ofList (c :: cs))
  | _ => none

/-- The path of the output, if the path is one of a template. -/
def destinationFor (p : Path) (suffix : String) : Option Path := do
  let name ← p.fileName?
  let stem ← stemOf? suffix name
  return p.withFileName stem

/-- A template and where its output goes. -/
structure Job where
  source : Path
  destination : Path
deriving DecidableEq

/-- The name of a path below a root. -/
def nameBelow (root p : Path) : String := Path.slashed (p.relativeTo root).text

/-- The name of a template below the root. -/
def Job.sourceName (job : Job) (root : Path) : String := nameBelow root job.source

/-- The name of an output below the root. -/
def Job.destinationName (job : Job) (root : Path) : String := nameBelow root job.destination

/-- The job of a file, if it is a template. -/
def jobOf? (suffix : String) (source : Path) : Option Job :=
  (destinationFor source suffix).map fun destination => ⟨source, destination⟩

/-! ### The search -/

/-- What a search meets. -/
structure Found where
  /-- The directories that were listed. -/
  directories : List Path
  /-- The files, templates or not. -/
  files : List Path
  /-- The templates that could not be looked at. -/
  unreadable : List Failure

namespace Found

/-- Nothing is met. -/
def nothing : Found := ⟨[], [], []⟩

/-- A directory is met first. -/
def underDirectory (p : Path) (found : Found) : Found :=
  { found with directories := p :: found.directories }

/-- A file is met first. -/
def underFile (p : Path) (found : Found) : Found := { found with files := p :: found.files }

/-- A failure is met first. -/
def underFailure (f : Failure) (found : Found) : Found :=
  { found with unreadable := f :: found.unreadable }

@[simp] theorem files_underDirectory (p : Path) (found : Found) :
    (underDirectory p found).files = found.files := rfl

@[simp] theorem files_underFile (p : Path) (found : Found) :
    (underFile p found).files = p :: found.files := rfl

@[simp] theorem files_underFailure (f : Failure) (found : Found) :
    (underFailure f found).files = found.files := rfl

@[simp] theorem directories_underDirectory (p : Path) (found : Found) :
    (underDirectory p found).directories = p :: found.directories := rfl

@[simp] theorem directories_underFile (p : Path) (found : Found) :
    (underFile p found).directories = found.directories := rfl

@[simp] theorem directories_underFailure (f : Failure) (found : Found) :
    (underFailure f found).directories = found.directories := rfl

@[simp] theorem unreadable_underDirectory (p : Path) (found : Found) :
    (underDirectory p found).unreadable = found.unreadable := rfl

@[simp] theorem unreadable_underFile (p : Path) (found : Found) :
    (underFile p found).unreadable = found.unreadable := rfl

@[simp] theorem unreadable_underFailure (f : Failure) (found : Found) :
    (underFailure f found).unreadable = f :: found.unreadable := rfl

end Found

/-- The paths of the entries of a directory. -/
def children (t : FileTree) (p : Path) (l : Location) : List Path := (t.names l).map p.join

theorem length_erase_lt {l : Location} {fresh : List Location} (h : l ∈ fresh) :
    (fresh.erase l).length < fresh.length := by
  have hpos := List.length_pos_of_mem h
  rw [List.length_erase_of_mem h]
  omega

/-- Searches pending paths.  The directories in `fresh` have not been listed yet; other directories
are passed over.  What cannot be looked at counts only if it has the name of a template. -/
def search (t : FileTree) (suffix : String) (fresh : List Location) : List Path → Found
  | [] => .nothing
  | p :: pending =>
    match t.resolve p with
    | .error e =>
      if (destinationFor p suffix).isSome then
        (search t suffix fresh pending).underFailure (.ofReading p e)
      else search t suffix fresh pending
    | .ok l =>
      if t.isDirectory l then
        if h : l ∈ fresh then
          have := length_erase_lt h
          (search t suffix (fresh.erase l) (children t p l ++ pending)).underDirectory p
        else search t suffix fresh pending
      else (search t suffix fresh pending).underFile p
termination_by pending => (fresh.length, pending.length)

/-! ### Discovery -/

/-- The templates below a root, and the templates that could not be looked at. -/
structure Discovery where
  jobs : List Job
  unreadable : List Failure

/-- The search through everything below a root. -/
def searchBelow (t : FileTree) (root : Path) (suffix : String) : Except FileError Found := do
  let (l, _) ← t.listing root
  return (search t suffix (t.directories.erase l) (children t root l)).underDirectory root

/-- The templates below a root, in the order of their paths.  Only a root that cannot be listed is
an error. -/
def discover (t : FileTree) (root : Path) (suffix : String) : Except FileError Discovery := do
  let found ← searchBelow t root suffix
  let files := found.files.mergeSort Path.precedes
  return ⟨files.filterMap (jobOf? suffix), found.unreadable⟩

end Compile

end JellyViews
