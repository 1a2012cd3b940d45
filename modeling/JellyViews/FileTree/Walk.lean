/-
**Following paths.**

A path is followed segment by segment, from the top or from the home of the tree.  A link on the way
is replaced by the segments of its target, forty times at most; `..` leads from a directory to the
one that holds it.  Following ends at an entry, or at a vacant place in a directory if only the last
name is missing.  Where a file is to be written, a slash behind the last name asks for a directory,
whether or not there is one.

Each step uses up a segment or a link, so following a path ends: segments are followed by recursion
on their list, links by recursion on the number of them that may still be followed.

Main definitions:

* `FileTree.Spot`, `FileTree.walkSegments`, `FileTree.walk` — where following segments ends;
* `FileTree.spot`, `FileTree.writingSpot`, `FileTree.resolve` — where following a path ends;
* `FileTree.ending` — the directory and the last name of a path, without following that name.
-/

import JellyViews.FileTree.Basic
import JellyViews.Path

set_option relaxedAutoImplicit false
set_option autoImplicit false

namespace JellyViews

namespace FileTree

/-! ### Limits -/

/-- The number of links that are followed for one path. -/
def linkLimit : Nat := 40

/-- The length of the longest name, in bytes. -/
def nameLimit : Nat := 255

/-- The length of the longest path, in bytes. -/
def pathLimit : Nat := 4095

/-! ### Segments -/

/-- Where following segments ends. -/
inductive Spot where
  /-- There is an entry, which is no link. -/
  | taken (l : Location)
  /-- There is nothing, but there is a directory that could hold it. -/
  | vacant (l : Location)
deriving DecidableEq

/-- Whether a path or a link target starts at the top. -/
def isAbsolute (text : String) : Bool := text.toList.head? == some '/'

/-- The directory in which following a text starts. -/
def startOf (text : String) (here : Location) : Location := if isAbsolute text then [] else here

/-- Whether a name is the last one and has a slash behind it; `rest` is what is behind the name. -/
def endsInSlash (rest : List String) : Bool := !rest.isEmpty && rest.all (· == "")

/-- Follows segments from a location, which has to be a directory if any segment is left; `writing`
tells whether a file is to be written where they lead.  At a link, `follow` goes on from where the
target of the link starts, with its segments in front of those that are left. -/
def walkSegments (t : FileTree) (writing : Bool)
    (follow : Location → List String → Except FileError Spot) (here : Location) :
    List String → Except FileError Spot
  | [] => .ok (.taken here)
  | s :: rest =>
    if t.isDirectory here then
      if Path.isIdle s then walkSegments t writing follow here rest
      else if s = ".." then walkSegments t writing follow here.dropLast rest
      else if writing ∧ endsInSlash rest then .error .isDirectory
      else if nameLimit < s.utf8ByteSize then .error .nameTooLong
      else
        match t.get? (here ++ [s]) with
        | none => if rest = [] then .ok (.vacant (here ++ [s])) else .error .missing
        | some (.link target) => follow (startOf target here) (Path.segmentsOf target ++ rest)
        | some _ => walkSegments t writing follow (here ++ [s]) rest
    else .error .notDirectory

/-- Follows segments and the links on the way, as many links as are given. -/
def walk (t : FileTree) (writing : Bool) :
    (links : Nat) → Location → List String → Except FileError Spot
  | 0 => walkSegments t writing fun _ _ => .error .tooManyLinks
  | links + 1 => walkSegments t writing (walk t writing links)

/-! ### Paths -/

/-- Refuses paths that cannot be followed at all. -/
def checkText (text : String) : Except FileError Unit :=
  if text = "" then .error .missing
  else if pathLimit < text.utf8ByteSize then .error .nameTooLong
  else .ok ()

/-- Where following a path ends. -/
def spot (t : FileTree) (p : Path) : Except FileError Spot := do
  checkText p.text
  t.walk false linkLimit (startOf p.text t.home) p.segments

/-- Where following a path ends to which a file is to be written. -/
def writingSpot (t : FileTree) (p : Path) : Except FileError Spot := do
  checkText p.text
  t.walk true linkLimit (startOf p.text t.home) p.segments

/-- The location of the entry to which a path leads. -/
def resolve (t : FileTree) (p : Path) : Except FileError Location := do
  match ← t.spot p with
  | .taken l => return l
  | .vacant _ => throw .missing

/-- What a path ends with. -/
inductive Ending where
  /-- A name in a directory. -/
  | name (dir : Location) (s : String)
  /-- A name in a directory, with a slash behind it. -/
  | slashed (dir : Location) (s : String)
  /-- No name: the top, `.` or `..`. -/
  | special

/-- The segments without empty ones at the end, and whether there were any. -/
def splitSlash (ss : List String) : List String × Bool :=
  let core := (ss.reverse.dropWhile fun s => s == "").reverse
  (core, core.length < ss.length)

/-- The directory and the last name of a path; a link at the end is not followed. -/
def ending (t : FileTree) (p : Path) : Except FileError Ending := do
  checkText p.text
  let (core, slash) := splitSlash p.segments
  match core.getLast? with
  | none => return .special
  | some s =>
    let dir ←
      match ← t.walk false linkLimit (startOf p.text t.home) core.dropLast with
      | .taken l => pure l
      | .vacant _ => throw .missing
    if ¬ t.isDirectory dir then throw .notDirectory
    if Path.isIdle s ∨ s = ".." then return .special
    if nameLimit < s.utf8ByteSize then throw .nameTooLong
    return if slash then .slashed dir s else .name dir s

end FileTree

end JellyViews
