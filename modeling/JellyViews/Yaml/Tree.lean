/-
**Documents as they are written.**

The tokens of a stream make documents, and a document is a tree of scalars, sequences and mappings.
Missing items, keys and values stand for empty plain scalars.

Main definitions:

* `Yaml.Tree` — nodes as they are written, with anchors and aliases;
* `Yaml.nodeAt` — the node that begins with a token;
* `Yaml.documents?` — the documents of a stream.
-/

import JellyViews.Yaml.Token

set_option relaxedAutoImplicit false
set_option autoImplicit false

namespace JellyViews

namespace Yaml

/-! ### Trees -/

/-- A node as it is written.  Anchors and aliases are told apart by labels, which are their names
at first. -/
inductive Tree (label : Type) where
  | scalar (tag : Option String) (plain : Bool) (text : String)
  | sequence (items : List (Tree label))
  | mapping (pairs : List (Tree label × Tree label))
  | alias (name : label)
  | anchored (name : label) (t : Tree label)

/-- The scalar that a missing node stands for. -/
def Tree.missing {label : Type} : Tree label := .scalar none true ""

/-! ### What is written before a node -/

/-- What handles stand for; the first entry of a handle counts. -/
abbrev Handles : Type := List (String × String)

/-- The handles that need no declaration. -/
def commonHandles : Handles := [("!", "!"), ("!!", "tag:yaml.org,2002:")]

/-- The full form of a tag, if its handle is declared. -/
def TagName.full (t : TagName) (handles : Handles) : Option String :=
  if t.handle = "" then some t.suffix else (handles.lookup t.handle).map (· ++ t.suffix)

/-- What is written before the content of a node. -/
structure Properties where
  anchor : Option String
  tag : Option String

/-- An anchor and a tag, in either order, each at most once. -/
def properties (handles : Handles) : List Token → Option (Properties × List Token)
  | .anchor a :: .tag t :: ts => (t.full handles).map fun tag => (⟨some a, some tag⟩, ts)
  | .tag t :: .anchor a :: ts => (t.full handles).map fun tag => (⟨some a, some tag⟩, ts)
  | .anchor a :: ts => some (⟨some a, none⟩, ts)
  | .tag t :: ts => (t.full handles).map fun tag => (⟨none, some tag⟩, ts)
  | ts => some (⟨none, none⟩, ts)

namespace Properties

/-- Whether anything is written. -/
def any (p : Properties) : Bool := p.anchor.isSome || p.tag.isSome

/-- The node with its anchor. -/
def anchorOn (p : Properties) (t : Tree String) : Tree String :=
  match p.anchor with
  | some name => .anchored name t
  | none => t

/-- A scalar with its tag and its anchor. -/
def scalar (p : Properties) (plain : Bool) (text : String) : Tree String :=
  p.anchorOn (.scalar p.tag plain text)

end Properties

/-! ### Missing nodes -/

/-- Whether an item outside of brackets has no content. -/
def endsItem : List Token → Bool
  | .item :: _ => true
  | .blockEnd :: _ => true
  | _ => false

/-- Whether a key or a value outside of brackets has no content. -/
def endsEntry : List Token → Bool
  | .key :: _ => true
  | .value :: _ => true
  | .blockEnd :: _ => true
  | _ => false

/-- Whether a key between brackets has no content. -/
def endsBracketKey : List Token → Bool
  | .value :: _ => true
  | .comma :: _ => true
  | .bracketClose :: _ => true
  | _ => false

/-- Whether a value between brackets has no content. -/
def endsBracketValue : List Token → Bool
  | .comma :: _ => true
  | .bracketClose :: _ => true
  | _ => false

/-- Whether a key between braces has no content. -/
def endsBraceKey : List Token → Bool
  | .value :: _ => true
  | .comma :: _ => true
  | .braceClose :: _ => true
  | _ => false

/-- Whether a value between braces has no content. -/
def endsBraceValue : List Token → Bool
  | .comma :: _ => true
  | .braceClose :: _ => true
  | _ => false

/-! ### Nodes -/

section

variable (handles : Handles)

mutual

/-- A node.  Collections without brackets are read where `block` holds, and items without
indentation where `loose` holds. -/
def nodeAt : Nat → Bool → Bool → List Token → Option (Tree String × List Token)
  | 0, _, _, _ => none
  | _ + 1, _, _, .alias name :: ts => some (.alias name, ts)
  | n + 1, block, loose, ts => do
    let (p, ts) ← properties handles ts
    match ts with
    | .item :: _ =>
      if loose then
        let (items, ts) ← looseItemsAt n ts
        return (p.anchorOn (.sequence items), ts)
      else if p.any then return (p.scalar true "", ts)
      else none
    | .scalar text plain :: ts => return (p.scalar plain text, ts)
    | .bracketOpen :: ts =>
      let (items, ts) ← bracketItemsAt n true ts
      return (p.anchorOn (.sequence items), ts)
    | .braceOpen :: ts =>
      let (pairs, ts) ← bracePairsAt n true ts
      return (p.anchorOn (.mapping pairs), ts)
    | ts =>
      match block, ts with
      | true, .sequenceStart :: ts =>
        let (items, ts) ← itemsAt n ts
        return (p.anchorOn (.sequence items), ts)
      | true, .mappingStart :: ts =>
        let (pairs, ts) ← pairsAt n ts
        return (p.anchorOn (.mapping pairs), ts)
      | _, ts =>
        if p.any then return (p.scalar true "", ts) else none

/-- The items of an indented sequence, and its end. -/
def itemsAt : Nat → List Token → Option (List (Tree String) × List Token)
  | 0, _ => none
  | n + 1, .item :: ts => do
    let (t, ts) ← if endsItem ts then some (Tree.missing, ts) else nodeAt n true false ts
    let (rest, ts) ← itemsAt n ts
    return (t :: rest, ts)
  | _ + 1, .blockEnd :: ts => some ([], ts)
  | _ + 1, _ => none

/-- Items at the column of the mapping that holds them; whatever else comes ends them. -/
def looseItemsAt : Nat → List Token → Option (List (Tree String) × List Token)
  | 0, _ => none
  | n + 1, .item :: ts => do
    let (t, ts) ←
      if endsItem ts || endsEntry ts then some (Tree.missing, ts) else nodeAt n true false ts
    let (rest, ts) ← looseItemsAt n ts
    return (t :: rest, ts)
  | _ + 1, ts => some ([], ts)

/-- The pairs of an indented mapping, and its end. -/
def pairsAt : Nat → List Token → Option (List (Tree String × Tree String) × List Token)
  | 0, _ => none
  | n + 1, .key :: ts => do
    let (k, ts) ← if endsEntry ts then some (Tree.missing, ts) else nodeAt n true true ts
    let (v, ts) ←
      match ts with
      | .value :: ts =>
        if endsEntry ts then some (Tree.missing, ts) else nodeAt n true true ts
      | ts => some (Tree.missing, ts)
    let (rest, ts) ← pairsAt n ts
    return ((k, v) :: rest, ts)
  | _ + 1, .blockEnd :: ts => some ([], ts)
  | _ + 1, _ => none

/-- The items between brackets, and the closing bracket; `first` holds before the first item. -/
def bracketItemsAt : Nat → Bool → List Token → Option (List (Tree String) × List Token)
  | 0, _, _ => none
  | _ + 1, _, .bracketClose :: ts => some ([], ts)
  | _ + 1, false, .comma :: .bracketClose :: ts => some ([], ts)
  | n + 1, false, .comma :: ts => do
    let (t, ts) ← bracketItemAt n ts
    let (rest, ts) ← bracketItemsAt n false ts
    return (t :: rest, ts)
  | n + 1, true, ts => do
    let (t, ts) ← bracketItemAt n ts
    let (rest, ts) ← bracketItemsAt n false ts
    return (t :: rest, ts)
  | _ + 1, false, _ => none

/-- An item between brackets: a node, or a key with its value, which is a mapping of its own. -/
def bracketItemAt : Nat → List Token → Option (Tree String × List Token)
  | 0, _ => none
  | n + 1, .key :: ts => do
    let (k, ts) ← if endsBracketKey ts then some (Tree.missing, ts) else nodeAt n false false ts
    let (v, ts) ←
      match ts with
      | .value :: ts =>
        if endsBracketValue ts then some (Tree.missing, ts) else nodeAt n false false ts
      | ts => some (Tree.missing, ts)
    return (.mapping [(k, v)], ts)
  | n + 1, ts => nodeAt n false false ts

/-- The pairs between braces, and the closing brace; `first` holds before the first pair. -/
def bracePairsAt : Nat → Bool → List Token → Option (List (Tree String × Tree String) × List Token)
  | 0, _, _ => none
  | _ + 1, _, .braceClose :: ts => some ([], ts)
  | _ + 1, false, .comma :: .braceClose :: ts => some ([], ts)
  | n + 1, false, .comma :: ts => do
    let (p, ts) ← bracePairAt n ts
    let (rest, ts) ← bracePairsAt n false ts
    return (p :: rest, ts)
  | n + 1, true, ts => do
    let (p, ts) ← bracePairAt n ts
    let (rest, ts) ← bracePairsAt n false ts
    return (p :: rest, ts)
  | _ + 1, false, _ => none

/-- A pair between braces; a node alone is a key without a value. -/
def bracePairAt : Nat → List Token → Option ((Tree String × Tree String) × List Token)
  | 0, _ => none
  | n + 1, .key :: ts => do
    let (k, ts) ← if endsBraceKey ts then some (Tree.missing, ts) else nodeAt n false false ts
    let (v, ts) ←
      match ts with
      | .value :: ts =>
        if endsBraceValue ts then some (Tree.missing, ts) else nodeAt n false false ts
      | ts => some (Tree.missing, ts)
    return ((k, v), ts)
  | n + 1, ts => do
    let (k, ts) ← nodeAt n false false ts
    return ((k, .missing), ts)

end

end

/-! ### Documents -/

/-- A bound on the nesting of readers over so many tokens. -/
def depthFor (ts : List Token) : Nat := 4 * ts.length + 4

/-- Whether the tokens begin a document or end one, or end the stream. -/
def isBetweenDocuments : List Token → Bool
  | [] => true
  | .directive _ :: _ => true
  | .documentStart :: _ => true
  | .documentEnd :: _ => true
  | _ => false

/-- The node of a document: nothing at all is a missing node. -/
def documentNode (handles : Handles) (ts : List Token) : Option (Tree String × List Token) :=
  if isBetweenDocuments ts then some (Tree.missing, ts)
  else nodeAt handles (depthFor ts) true false ts

/-- The handles that the directives before a document declare, each at most once.  One directive may
name the version, which must be 1.1 or 1.2. -/
def directives (versioned : Bool) (handles : Handles) :
    List Token → Option (Handles × List Token)
  | .directive (.version major minor) :: ts =>
    if versioned || major != 1 || (minor != 1 && minor != 2) then none
    else directives true handles ts
  | .directive (.handle name meaning) :: ts =>
    if (handles.lookup name).isSome then none
    else directives versioned (handles ++ [(name, meaning)]) ts
  | ts => some (handles ++ commonHandles, ts)

/-- Marks that end documents, without effect. -/
def dropEnds : List Token → List Token
  | .documentEnd :: ts => dropEnds ts
  | ts => ts

/-- Documents that each begin with directives and a mark. -/
def markedDocuments : Nat → List Token → Option (List (Tree String))
  | 0, _ => none
  | n + 1, ts =>
    match dropEnds ts with
    | [] => some []
    | ts => do
      match ← directives false [] ts with
      | (handles, .documentStart :: ts) =>
        let (t, ts) ← documentNode handles ts
        let rest ← markedDocuments n ts
        return t :: rest
      | _ => none

/-- The documents of a stream; the first one needs no mark. -/
def documents? (ts : List Token) : Option (List (Tree String)) :=
  match ts with
  | [] => some []
  | .directive _ :: _ => markedDocuments (ts.length + 1) ts
  | .documentStart :: _ => markedDocuments (ts.length + 1) ts
  | _ => do
    let (t, rest) ← nodeAt commonHandles (depthFor ts) true false ts
    let more ← markedDocuments (rest.length + 1) rest
    return t :: more

end Yaml

end JellyViews
