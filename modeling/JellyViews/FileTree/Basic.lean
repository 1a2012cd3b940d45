/-
**A tree of files.**

A tree maps locations to files, directories and symbolic links.  A location lists the names from the
top down; the top itself is always a directory, and nothing lies above it.  Absolute paths start at
the top, and relative paths at the home of the tree.

Main definitions:

* `FileError` — what an operation on files may report;
* `FileTree`, `FileTree.get?` — a tree, and what stands at a location;
* `FileTree.put`, `FileTree.drop`, `FileTree.dropBelow` — changing one location, or all below one;
* `FileTree.names`, `FileTree.directories` — the names in a directory, and all directories.

Main results:

* `FileTree.get?_put`, `FileTree.get?_drop` — what the changes do to every location.
-/

import JellyViews.OrderedMap

set_option relaxedAutoImplicit false
set_option autoImplicit false

namespace JellyViews

/-! ### Errors -/

/-- What an operation on files may report. -/
inductive FileError where
  /-- There is nothing at the path. -/
  | missing
  /-- A file is needed, and there is a directory. -/
  | isDirectory
  /-- A directory is needed, and there is something else. -/
  | notDirectory
  /-- More links than can be followed. -/
  | tooManyLinks
  /-- A name, or the whole path, is longer than names and paths may be. -/
  | nameTooLong
  /-- The path ends with a segment that cannot be replaced. -/
  | busy
  /-- The bytes of the file are not UTF-8. -/
  | notText
deriving DecidableEq

/-- The text of an error. -/
def FileError.message : FileError → String
  | missing => "No such file or directory (os error 2)"
  | isDirectory => "Is a directory (os error 21)"
  | notDirectory => "Not a directory (os error 20)"
  | tooManyLinks => "Too many levels of symbolic links (os error 40)"
  | nameTooLong => "File name too long (os error 36)"
  | busy => "Device or resource busy (os error 16)"
  | notText => "stream did not contain valid UTF-8"

/-! ### Trees -/

/-- Names from the top down. -/
abbrev Location : Type := List String

/-- What stands at a location. -/
inductive Entry where
  | file (content : ByteArray)
  | link (target : String)
  | directory

/-- Whether the entry is a directory. -/
def Entry.isDirectory : Entry → Bool
  | directory => true
  | file _ => false
  | link _ => false

/-- What stands at each location but the top, and the directory in which relative paths start. -/
structure FileTree where
  entries : OrderedMap Location Entry
  home : Location

namespace FileTree

/-- The tree with nothing in it. -/
def empty : FileTree := ⟨∅, []⟩

instance : EmptyCollection FileTree := ⟨empty⟩

instance : Inhabited FileTree := ⟨empty⟩

/-- What stands at a location. -/
def get? (t : FileTree) (l : Location) : Option Entry :=
  if l = [] then some .directory else t.entries.get? l

/-- Whether the location is a directory. -/
def isDirectory (t : FileTree) (l : Location) : Bool := (t.get? l).any Entry.isDirectory

/-- Puts an entry at a location. -/
def put (t : FileTree) (l : Location) (e : Entry) : FileTree :=
  { t with entries := t.entries.insert l e }

/-- Takes the entry away from a location. -/
def drop (t : FileTree) (l : Location) : FileTree := { t with entries := t.entries.erase l }

/-- Takes away the location and everything below it. -/
def dropBelow (t : FileTree) (l : Location) : FileTree :=
  t.entries.keys.foldl (fun acc k => if l.isPrefixOf k then acc.drop k else acc) t

/-- The name of a location inside of a directory, if it stands directly in it. -/
def nameIn (dir : Location) (l : Location) : Option String :=
  if l.dropLast = dir then l.getLast? else none

/-- The locations of all directories; the top is one whatever the entries say. -/
def directories (t : FileTree) : List Location :=
  [] :: (t.entries.entries.filter fun e => e.2.isDirectory && decide (e.1 ≠ [])).map Prod.fst

/-- The names in a directory, in ascending order. -/
def names (t : FileTree) (dir : Location) : List String :=
  (t.entries.keys.filterMap (nameIn dir)).mergeSort fun a b => decide (a ≤ b)

theorem Entry.isDirectory_iff {e : Entry} : e.isDirectory = true ↔ e = .directory := by
  cases e <;> simp [Entry.isDirectory]

theorem isDirectory_iff {t : FileTree} {l : Location} :
    t.isDirectory l = true ↔ t.get? l = some .directory := by
  simp [isDirectory, Option.any_eq_true, Entry.isDirectory_iff]

@[simp] theorem get?_top (t : FileTree) : t.get? [] = some .directory := rfl

theorem get?_put (t : FileTree) (l a : Location) (e : Entry) (h : l ≠ []) :
    (t.put l e).get? a = if l = a then some e else t.get? a := by
  by_cases ha : a = []
  · subst ha
    simp [get?, h]
  · simp [get?, ha, put, OrderedMap.get?_insert]

theorem get?_drop (t : FileTree) (l a : Location) (h : l ≠ []) :
    (t.drop l).get? a = if l = a then none else t.get? a := by
  by_cases ha : a = []
  · subst ha
    simp [get?, h]
  · simp [get?, ha, drop, OrderedMap.get?_erase]

end FileTree

end JellyViews
