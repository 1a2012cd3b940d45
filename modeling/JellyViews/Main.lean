/-
**The program.**

The commands work on a tree of files in memory.  The program loads the directory that a command is
about, runs the command, writes back the files that it changed, and prints its output.

Main definitions:

* `Disk.load` — the tree of everything below a path;
* `Disk.store` — the files of a tree that differ from those of another;
* `main` — the program.
-/

import JellyViews.Command.Moment
import JellyViews.Command.Run
import Std.Time.DateTime.Timestamp

set_option relaxedAutoImplicit false
set_option autoImplicit false

namespace JellyViews

open Command

/-! ### Loading -/

namespace Disk

/-- The location of a path without links. -/
def locationOf (real : String) : Location :=
  (Path.segmentsOf real).filter fun s => !Path.isIdle s

/-- The path of a location. -/
def pathOf (l : Location) : String := "/" ++ String.intercalate "/" l

/-- Puts a directory at a location, and at every location above it. -/
def addDirectory (t : FileTree) (l : Location) : FileTree :=
  (List.range l.length).foldl (fun t n => t.put (l.take (n + 1)) .directory) t

/-- The target of a link that leads nowhere: no file has this name. -/
def nowhere : String := "\x00"

/-- What was loaded, and the directories whose entries are still to be loaded. -/
structure Loaded where
  tree : FileTree
  pending : List String

/-- Loads what stands at a path without links. -/
def loadReal (t : FileTree) (real : String) : IO Loaded := do
  let l := locationOf real
  let path ← IO.FS.realPath real
  if ← path.isDir then return ⟨addDirectory t l, [real]⟩
  let content ← IO.FS.readBinFile path
  return ⟨(addDirectory t l.dropLast).put l (.file content), []⟩

/-- Loads a link at a location, and what it leads to. -/
def loadLink (t : FileTree) (l : Location) (path : String) : IO Loaded := do
  try
    let target := (← IO.FS.realPath path).toString
    loadReal (t.put l (.link target)) target
  catch _ => return ⟨t.put l (.link nowhere), []⟩

/-- Loads an entry of a directory, if it can be looked at. -/
def loadEntry (t : FileTree) (dir name : String) : IO Loaded := do
  try
    let path := (← IO.FS.realPath dir) / name
    match (← path.symlinkMetadata).type with
    | .symlink => loadLink t (locationOf dir ++ [name]) path.toString
    | _ => loadReal t path.toString
  catch _ => return ⟨t, []⟩

/-- Loads entries of a directory. -/
def loadEntries (t : FileTree) (dir : String) : List String → IO Loaded
  | [] => return ⟨t, []⟩
  | name :: names => do
    let first ← loadEntry t dir name
    let rest ← loadEntries first.tree dir names
    return ⟨rest.tree, first.pending ++ rest.pending⟩

/-- Loads everything below directories; `seen` are those that have been loaded. -/
partial def loadBelow (t : FileTree) (seen : List String) : List String → IO FileTree
  | [] => return t
  | dir :: pending => do
    if seen.contains dir then loadBelow t seen pending
    else
      let entries ← (← IO.FS.realPath dir).readDir
      let loaded ← loadEntries t dir (entries.toList.map fun e => e.fileName)
      loadBelow loaded.tree (dir :: seen) (loaded.pending ++ pending)

/-- Loads the entries on the way along segments, from a directory. -/
def loadWay (t : FileTree) (dir : String) : List String → IO FileTree
  | [] => return t
  | name :: names => do
    let loaded ← if Path.isIdle name || name == ".." then pure ⟨t, []⟩ else loadEntry t dir name
    try
      loadWay loaded.tree (← IO.FS.realPath (dir ++ "/" ++ name)).toString names
    catch _ => return loaded.tree

/-- The tree of everything below a path, at home in the current directory. -/
def load (p : Path) : IO FileTree := do
  let here := (← IO.currentDir).toString
  let start := addDirectory { (∅ : FileTree) with home := locationOf here } (locationOf here)
  let t ← loadWay start (if FileTree.isAbsolute p.text then "/" else here) p.segments
  try
    let loaded ← loadReal t (← IO.FS.realPath p.text).toString
    loadBelow loaded.tree [] loaded.pending
  catch _ => return t

/-! ### Storing -/

/-- Whether a location of a tree holds a file with this content. -/
def hasContent (t : FileTree) (l : Location) (content : ByteArray) : Bool :=
  match t.get? l with
  | some (.file c) => c == content
  | _ => false

/-- Gives the file at a location its new content, in the stead of a file or a link. -/
def storeFile (l : Location) (content : ByteArray) : IO Unit := do
  let temporary := (Compile.temporaryFor ⟨pathOf l⟩).text
  IO.FS.writeBinFile temporary content
  IO.FS.rename temporary (pathOf l)

/-- Writes the files of a tree that differ from those of the tree before, and removes those that are
gone. -/
def store (before after : FileTree) : IO Unit := do
  for (l, e) in after.entries.entries do
    match e with
    | .file content => if !hasContent before l content then storeFile l content
    | _ => pure ()
  for l in before.entries.keys do
    if (after.get? l).isNone then IO.FS.removeFile (pathOf l)

end Disk

/-! ### The program -/

/-- The directory that a request is about. -/
def Command.Request.root? : Request → Option Path
  | compile root _ _ => some root
  | diff root _ => some root
  | tags root _ => root

/-- The tree that a request needs. -/
def treeFor (r : Request) : IO FileTree :=
  match r.root? with
  | some root => Disk.load root
  | none => return ∅

/-- The moment at which this runs. -/
def now : IO Moment := do
  let nanoseconds := (← Std.Time.Timestamp.now).toNanosecondsSinceUnixEpoch.val.toNat
  return ⟨nanoseconds / 1000000000, nanoseconds % 1000000000⟩

/-- Whether a variable of the environment is set to something else than `0`. -/
def isOn (name : String) : IO Bool := return (← IO.getEnv name).any (· != "0")

/-- Whether marks are coloured: the environment may ask for it or against it, and otherwise they are
coloured on a terminal. -/
def wantsColor : IO Bool := do
  if ← isOn "CLICOLOR_FORCE" then return true
  if ← isOn "NO_COLOR" then return false
  return (← IO.getEnv "CLICOLOR") != some "0" && (← (← IO.getStdout).isTty)

/-- Does what is requested with the files of the disk. -/
def performOnDisk (r : Request) : IO Output := do
  let before ← treeFor r
  let started ← now
  let (after, answer) := r.perform before
  Disk.store before after
  return answer.output ⟨← wantsColor, started.text, (← now).text⟩

/-- Runs a command line on the files of the disk. -/
def runOnDisk (words : List String) : IO Output :=
  match request words with
  | .error stop => return stop.output
  | .ok r => performOnDisk r

end JellyViews

/-- The program: prints the output of a command line and answers with its exit code. -/
def main (words : List String) : IO UInt32 := do
  let output ← JellyViews.runOnDisk words
  IO.print output.stdout
  IO.eprint output.stderr
  return output.code.toUInt32
