/-
**Nodes without aliases.**

An alias stands for the node of an anchor.  Anchors have numbers: the number of an anchor is that of
the different names that were announced before it, and an alias refers to the number that its name
has where it is written.  A name that is announced again makes two anchors share a number; the
alias then stands for the node of the last anchor of its number, wherever that is in the document.

Following an alias is a jump.  A document that takes more than a hundred jumps for each of its parts
is malformed, so aliases that contain themselves are, too.

Main definitions:

* `Yaml.Node` — nodes without aliases;
* `Yaml.numbered`, `Yaml.Tree.targets`, `Yaml.Tree.parts` — the numbers of anchors, the nodes behind
  them, and the parts of a document;
* `Yaml.Tree.resolve?` — the node of a document;
* `Yaml.parse` — the only document of a stream.
-/

import JellyViews.OrderedMap
import JellyViews.Yaml.Tree

set_option relaxedAutoImplicit false
set_option autoImplicit false

namespace JellyViews

namespace Yaml

/-- A node. -/
inductive Node where
  | scalar (tag : Option String) (plain : Bool) (text : String)
  | sequence (items : List Node)
  | mapping (pairs : List (Node × Node))

/-! ### Numbers of anchors -/

/-- The names of anchors, each with its number. -/
abbrev Names : Type := OrderedMap String Nat

/-- The names after one more anchor, whose number is that of the names before it. -/
def Names.announce (names : Names) (name : String) : Names :=
  OrderedMap.insert names name names.size

mutual

/-- The tree with numbers for names, and the names behind it; `none` if an alias comes before all
anchors of its name. -/
def numbered (names : Names) : Tree String → Option (Tree Nat × Names)
  | .scalar tag plain text => some (.scalar tag plain text, names)
  | .sequence items => do
    let (items, names) ← numberedItems names items
    return (.sequence items, names)
  | .mapping pairs => do
    let (pairs, names) ← numberedPairs names pairs
    return (.mapping pairs, names)
  | .alias name => (names.get? name).map fun n => (.alias n, names)
  | .anchored name t => do
    let (u, after) ← numbered (Names.announce names name) t
    return (.anchored names.size u, after)

/-- The items with numbers for names. -/
def numberedItems (names : Names) : List (Tree String) → Option (List (Tree Nat) × Names)
  | [] => some ([], names)
  | t :: ts => do
    let (u, names) ← numbered names t
    let (us, names) ← numberedItems names ts
    return (u :: us, names)

/-- The pairs with numbers for names. -/
def numberedPairs (names : Names) :
    List (Tree String × Tree String) → Option (List (Tree Nat × Tree Nat) × Names)
  | [] => some ([], names)
  | (k, v) :: ps => do
    let (k, names) ← numbered names k
    let (v, names) ← numbered names v
    let (us, names) ← numberedPairs names ps
    return ((k, v) :: us, names)

end

/-! ### Parts -/

mutual

/-- The number of parts of a tree: one for a scalar or an alias, and two for what encloses
others. -/
def Tree.parts : Tree Nat → Nat
  | .scalar _ _ _ => 1
  | .alias _ => 1
  | .sequence items => partsOfItems items + 2
  | .mapping pairs => partsOfPairs pairs + 2
  | .anchored _ t => t.parts

/-- The number of parts of items. -/
def partsOfItems : List (Tree Nat) → Nat
  | [] => 0
  | t :: ts => t.parts + partsOfItems ts

/-- The number of parts of pairs. -/
def partsOfPairs : List (Tree Nat × Tree Nat) → Nat
  | [] => 0
  | (k, v) :: ps => k.parts + v.parts + partsOfPairs ps

end

mutual

/-- The anchored nodes inside of a tree with their numbers, the later ones first; `found` are those
before it. -/
def Tree.targets (found : List (Nat × Tree Nat)) : Tree Nat → List (Nat × Tree Nat)
  | .scalar _ _ _ => found
  | .alias _ => found
  | .sequence items => targetsOfItems found items
  | .mapping pairs => targetsOfPairs found pairs
  | .anchored n t => t.targets ((n, t) :: found)

/-- The anchored nodes inside of items. -/
def targetsOfItems (found : List (Nat × Tree Nat)) : List (Tree Nat) → List (Nat × Tree Nat)
  | [] => found
  | t :: ts => targetsOfItems (t.targets found) ts

/-- The anchored nodes inside of pairs. -/
def targetsOfPairs (found : List (Nat × Tree Nat)) :
    List (Tree Nat × Tree Nat) → List (Nat × Tree Nat)
  | [] => found
  | (k, v) :: ps => targetsOfPairs (v.targets (k.targets found)) ps

end

/-! ### Jumps -/

/-- A computation that may take only so many more jumps. -/
abbrev Jumping (α : Type) : Type := StateT Nat Option α

/-- Takes one of the jumps that are left. -/
def takeJump : Jumping Unit := fun left =>
  match left with
  | 0 => none
  | n + 1 => some ((), n)

section

variable (jump : Nat → Jumping Node)

mutual

/-- The node of a tree, where `jump` gives the nodes of aliases. -/
def Tree.expand : Tree Nat → Jumping Node
  | .scalar tag plain text => pure (.scalar tag plain text)
  | .sequence items => do
    let ns ← expandItems items
    return .sequence ns
  | .mapping pairs => do
    let ns ← expandPairs pairs
    return .mapping ns
  | .alias n => jump n
  | .anchored _ t => t.expand

/-- The nodes of items. -/
def expandItems : List (Tree Nat) → Jumping (List Node)
  | [] => pure []
  | t :: ts => do
    let n ← t.expand
    let ns ← expandItems ts
    return n :: ns

/-- The nodes of pairs. -/
def expandPairs : List (Tree Nat × Tree Nat) → Jumping (List (Node × Node))
  | [] => pure []
  | (a, b) :: ps => do
    let x ← a.expand
    let y ← b.expand
    let ns ← expandPairs ps
    return (x, y) :: ns

end

end

/-- The node of the anchor of a number, with at most so many jumps inside of each other. -/
def jumpAt (targets : List (Nat × Tree Nat)) : Nat → Nat → Jumping Node
  | 0, _ => failure
  | depth + 1, number => do
    takeJump
    match targets.lookup number with
    | some t => t.expand (jumpAt targets depth)
    | none => failure

/-- The number of jumps that a document may take for each of its parts. -/
def jumpsPerPart : Nat := 100

/-- The node of a document, unless an alias is not known or there are too many jumps. -/
def Tree.resolve? (t : Tree String) : Option Node := do
  let (u, _) ← numbered OrderedMap.empty t
  let jumps := jumpsPerPart * u.parts
  let (n, _) ← (u.expand (jumpAt (u.targets []) (jumps + 1))).run jumps
  return n

/-! ### Streams -/

/-- The document of a stream, if there is one: `none` for a stream that is malformed or has several
documents. -/
def parse (stream : String) : Option (Option Node) := do
  let tokens ← tokens? stream
  match ← documents? tokens with
  | [] => return none
  | [t] => do
    let n ← t.resolve?
    return some n
  | _ => none

end Yaml

end JellyViews
