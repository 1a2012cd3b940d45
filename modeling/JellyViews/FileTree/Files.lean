/-
**Reading and writing files by path.**

Reading and writing follow links.  Renaming replaces what stands at the new name, be it a file or a
link, but never a directory; removing takes away a file or a link and leaves directories alone.  An
operation that fails leaves the tree as it was.

Main definitions:

* `FileTree.readText` — the text of a file;
* `FileTree.entry`, `FileTree.listing` — what a path leads to, and the names in a directory;
* `FileTree.writeText`, `FileTree.rename`, `FileTree.unlink` — changes.
-/

import JellyViews.FileTree.Walk

set_option relaxedAutoImplicit false
set_option autoImplicit false

namespace JellyViews

namespace FileTree

/-! ### Reading -/

/-- What stands at the end of a path; links are followed. -/
def entry (t : FileTree) (p : Path) : Except FileError Entry := do
  let l ← t.resolve p
  match t.get? l with
  | some e => return e
  | none => throw .missing

/-- The text of the bytes of a file. -/
def decode (content : ByteArray) : Except FileError String :=
  match String.fromUTF8? content with
  | some s => .ok s
  | none => .error .notText

/-- The text of a file. -/
def readText (t : FileTree) (p : Path) : Except FileError String := do
  match ← t.entry p with
  | .file content => decode content
  | .directory => throw .isDirectory
  | .link _ => throw .tooManyLinks

/-- Whether a path leads to a file. -/
def isFile (t : FileTree) (p : Path) : Bool :=
  match t.entry p with
  | .ok (.file _) => true
  | _ => false

/-- The location of a directory and the names in it, in ascending order. -/
def listing (t : FileTree) (p : Path) : Except FileError (Location × List String) := do
  let l ← t.resolve p
  if t.isDirectory l then return (l, t.names l)
  throw .notDirectory

/-! ### Writing -/

/-- The bytes of a text. -/
def encode (text : String) : ByteArray := text.toUTF8

/-- Puts a file where a path leads, with a new content. -/
def writeText (t : FileTree) (p : Path) (text : String) : Except FileError FileTree := do
  match ← t.writingSpot p with
  | .vacant l => return t.put l (.file (encode text))
  | .taken l =>
    if t.isDirectory l then throw .isDirectory
    return t.put l (.file (encode text))

/-- Moves a file or a link to another name. -/
def rename (t : FileTree) (source target : Path) : Except FileError FileTree := do
  let fromEnd ← t.ending source
  let toEnd ← t.ending target
  match fromEnd, toEnd with
  | .name dir s, .name dir' s' =>
    match t.get? (dir ++ [s]) with
    | none => throw .missing
    | some .directory => throw .isDirectory
    | some e =>
      if t.isDirectory (dir' ++ [s']) then throw .isDirectory
      return (t.drop (dir ++ [s])).put (dir' ++ [s']) e
  | .special, _ => throw .busy
  | _, .special => throw .busy
  | _, _ => throw .notDirectory

/-- Takes away the file or the link at a path, if there is one. -/
def unlink (t : FileTree) (p : Path) : FileTree :=
  match t.ending p with
  | .ok (.name dir s) => if t.isDirectory (dir ++ [s]) then t else t.drop (dir ++ [s])
  | _ => t

end FileTree

end JellyViews
