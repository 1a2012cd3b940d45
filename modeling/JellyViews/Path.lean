/-
**Paths.**

A path is a text whose slashes separate segments.  Empty segments and segments `.` are idle: they
name nothing, except that a slash in front makes a path absolute and a leading `.` counts.  What
remains are the components of the path; paths are ordered and stripped by components, while their
texts are kept as they were given.

Main definitions:

* `Path`, `Path.segments`, `Path.components` — a path and its parts;
* `Path.join`, `Path.parent`, `Path.fileName?`, `Path.withFileName` — names inside of directories;
* `Path.stripPrefix?` — a path relative to another;
* `Path.precedes` — the order of paths.

Main results:

* `Path.segments_ne_nil` — a path has at least one segment, which may be empty.
-/

set_option relaxedAutoImplicit false
set_option autoImplicit false

namespace JellyViews

/-- A path, as it is written. -/
structure Path where
  text : String
deriving DecidableEq

namespace Path

/-! ### Segments -/

/-- The parts of a text between slashes. -/
def splitChars : List Char → List (List Char)
  | [] => [[]]
  | c :: cs =>
    if c = '/' then [] :: splitChars cs
    else
      match splitChars cs with
      | part :: parts => (c :: part) :: parts
      | [] => [[c]]

theorem splitChars_ne_nil (cs : List Char) : splitChars cs ≠ [] := by
  cases cs with
  | nil => simp [splitChars]
  | cons c cs =>
    unfold splitChars
    split
    · simp
    · split <;> simp

/-- The parts of the text between slashes. -/
def segmentsOf (text : String) : List String := (splitChars text.toList).map String.ofList

/-- The segments of a path. -/
def segments (p : Path) : List String := segmentsOf p.text

theorem segments_ne_nil (p : Path) : p.segments ≠ [] := by
  simp [segments, segmentsOf, splitChars_ne_nil]

/-- Whether a segment names nothing. -/
def isIdle (segment : String) : Bool := segment == "" || segment == "."

/-- The segments without idle ones at the end. -/
def trimIdleEnd (ss : List String) : List String := (ss.reverse.dropWhile isIdle).reverse

/-- The path of segments. -/
def ofSegments (ss : List String) : Path := ⟨String.intercalate "/" ss⟩

/-! ### Components -/

/-- A part of a path that counts. -/
inductive Component where
  | root
  | here
  | up
  | name (s : String)
deriving DecidableEq

/-- The component of a segment that is not idle. -/
def componentOf (segment : String) : Component := if segment = ".." then .up else .name segment

/-- The components of the segments behind the first one. -/
def bodyComponents (ss : List String) : List Component :=
  (ss.filter fun s => !isIdle s).map componentOf

/-- What the first segment of a path stands for. -/
inductive Lead where
  /-- The path is absolute. -/
  | root
  /-- The path begins with `.`. -/
  | here
  /-- The path begins with a name, or is empty. -/
  | none
deriving DecidableEq

/-- The lead of segments, and the segments behind it. -/
def splitLead : List String → Lead × List String
  | "" :: s :: ss => (.root, s :: ss)
  | "." :: ss => (.here, ss)
  | ss => (.none, ss)

/-- The component of a lead. -/
def Lead.components : Lead → List Component
  | root => [.root]
  | here => [.here]
  | none => []

/-- The components of a path. -/
def components (p : Path) : List Component :=
  let (lead, body) := splitLead p.segments
  lead.components ++ bodyComponents body

/-- The path of a lead and the segments behind it. -/
def ofLead : Lead → List String → Path
  | .root, body => ⟨"/" ++ String.intercalate "/" body⟩
  | .here, body => ofSegments ("." :: body)
  | .none, body => ofSegments body

/-! ### Names inside of directories -/

/-- The path of a name inside of a directory. -/
def join (p : Path) (name : String) : Path :=
  if p.text = "" then ⟨name⟩
  else if p.text.toList.getLast? = some '/' then ⟨p.text ++ name⟩
  else ⟨p.text ++ "/" ++ name⟩

/-- The name at the end of a path, unless the path ends with `..` or has no name. -/
def fileName? (p : Path) : Option String :=
  match p.components.getLast? with
  | some (.name s) => some s
  | _ => Option.none

/-- The path without its last component. -/
def parent (p : Path) : Path :=
  let (lead, body) := splitLead p.segments
  ofLead lead (trimIdleEnd (trimIdleEnd body).dropLast)

/-- The path with another name at its end. -/
def withFileName (p : Path) (name : String) : Path := p.parent.join name

/-! ### Relative paths -/

/-- The segments that are left when so many components are taken off the front. -/
def dropComponents : Nat → List String → List String
  | 0, ss => ss
  | _ + 1, [] => []
  | n + 1, s :: ss => if isIdle s then dropComponents (n + 1) ss else dropComponents n ss

/-- The segments behind the first `n` components of a path, `n` at least one. -/
def segmentsBehind (n : Nat) (p : Path) : List String :=
  match splitLead p.segments with
  | (.none, body) => dropComponents n body
  | (_, body) => dropComponents (n - 1) body

/-- The path relative to `base`, if its components begin with those of `base`. -/
def stripPrefix? (p base : Path) : Option Path :=
  if base.components.isPrefixOf p.components then
    match base.components.length with
    | 0 =>
      let (lead, body) := splitLead p.segments
      some (ofLead lead (trimIdleEnd body))
    | n + 1 => some (ofSegments (trimIdleEnd ((segmentsBehind (n + 1) p).dropWhile isIdle)))
  else Option.none

/-- The path relative to `base` where it lies below `base`, and otherwise the path. -/
def relativeTo (p base : Path) : Path := (p.stripPrefix? base).getD p

/-- The text with a slash for every backslash. -/
def slashed (s : String) : String :=
  String.ofList (s.toList.map fun c => if c = '\\' then '/' else c)

/-! ### The order of paths -/

/-- The rank of a component: roots first, names last. -/
def Component.rank : Component → Nat
  | root => 0
  | here => 1
  | up => 2
  | name _ => 3

/-- Whether a component comes before another: by rank, and names by their text. -/
def Component.precedes : Component → Component → Bool
  | name s, name t => decide (s < t)
  | a, b => decide (a.rank < b.rank)

/-- Whether the first list of components comes before the second, or is the same. -/
def componentsPrecede : List Component → List Component → Bool
  | [], _ => true
  | _ :: _, [] => false
  | a :: as, b :: bs => if a = b then componentsPrecede as bs else a.precedes b

/-- Whether a path comes before another, or has the same components. -/
def precedes (p q : Path) : Bool := componentsPrecede p.components q.components

end Path

end JellyViews
