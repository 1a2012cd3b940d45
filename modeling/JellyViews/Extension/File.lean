/-
**The file that declares tags.**

A tree of templates may hold a file with tag definitions at its top.  The file is a mapping with one
field, `tags`, which lists the definitions; a definition is a mapping, too.  A field that is not
known, and a field that comes twice, make the file malformed; a field whose value is missing counts
as empty.

Main definitions:

* `Extension.decode` — the definitions that a document holds;
* `Extension.load`, `Extension.detect` — the definitions of a file;
* `Extension.registerAll`, `Extension.declare` — adding the operations of definitions;
* `Extension.registryFor` — the registry of a tree of templates.
-/

import JellyViews.Extension.Error
import JellyViews.Extension.Scalar

set_option relaxedAutoImplicit false
set_option autoImplicit false

namespace JellyViews

namespace Extension

open Yaml Tag

/-! ### Nodes of a certain form -/

/-- Whether the node is what a missing value stands for. -/
def isMissing : Node → Bool
  | .scalar _ plain text => plain && text == ""
  | _ => false

/-- The text of a scalar, whatever its form. -/
def text? : Node → Option String
  | .scalar _ _ text => some text
  | _ => none

/-- The items of a sequence; a missing value has none. -/
def items? : Node → Option (List Node)
  | .sequence items => some items
  | n => if isMissing n then some [] else none

/-- The pairs of a mapping; a missing value has none. -/
def pairs? : Node → Option (List (Node × Node))
  | .mapping pairs => some pairs
  | n => if isMissing n then some [] else none

/-- A pair whose key is a text. -/
def namedPair? (p : Node × Node) : Option (String × Node) := (text? p.1).map fun k => (k, p.2)

/-- The fields of a mapping: each is one of the known ones, and none comes twice. -/
def fields? (known : List String) (n : Node) : Option (List (String × Node)) := do
  let named ← (← pairs? n).mapM namedPair?
  let names := named.map Prod.fst
  if names.all known.contains && decide names.Nodup then some named else none

/-- Whether the node is a null: a plain scalar that is missing or reads as null. -/
def isNothing : Node → Option Bool
  | .scalar tag plain text =>
    if !plain then some false
    else
      match tag with
      | some t =>
        if t = coreTag "null" then if isNull text then some true else none else some false
      | none => some (text == "" || isNull text)
  | _ => some false

/-- A text that may be left out. -/
def optionalText? : Option Node → Option (Option String)
  | none => some none
  | some n => do
    if ← isNothing n then return none
    else return some (← text? n)

/-! ### Definitions -/

/-- The kind of a node: its text, or a local tag on nothing. -/
def kind? : Node → Option Kind
  | .scalar (some tag) plain text =>
    match tag.toList with
    | '!' :: name =>
      if plain && (text == "" || isNull text) then Kind.ofText? (String.ofList name) else none
    | _ => Kind.ofText? text
  | .scalar none _ text => Kind.ofText? text
  | _ => none

/-- The value of a scalar that is no null. -/
def defaultValue? : Node → Option DefaultValue
  | .scalar tag plain text =>
    match scalarValue tag plain text with
    | .value v => some v
    | _ => none
  | _ => none

/-- A default value and the name of its attribute. -/
def default? (p : Node × Node) : Option (String × DefaultValue) := do
  let key ← text? p.1
  let v ← defaultValue? p.2
  return (key, v)

/-- Applies a reader to a field that may be left out. -/
def orEmpty {α : Type} (read : Node → Option (List α)) : Option Node → Option (List α)
  | some n => read n
  | none => some []

/-- The fields of a definition. -/
def definitionFields : List String :=
  ["name", "kind", "value_attr", "element", "required", "defaults"]

/-- The definition of a node. -/
def definition? (n : Node) : Option Definition := do
  let fields ← fields? definitionFields n
  let name ← (fields.lookup "name").bind text?
  let kind ← (fields.lookup "kind").bind kind?
  let valueAttr ← optionalText? (fields.lookup "value_attr")
  let element ← optionalText? (fields.lookup "element")
  let required ← orEmpty (fun n => do (← items? n).mapM text?) (fields.lookup "required")
  let defaults ← orEmpty (fun n => do (← pairs? n).mapM default?) (fields.lookup "defaults")
  return ⟨name, kind, valueAttr, element, required, sortedDefaults defaults⟩

/-- The definitions of a document; no document at all declares nothing. -/
def decode : Option Node → Option (List Definition)
  | none => some []
  | some n => do
    let fields ← fields? ["tags"] n
    orEmpty (fun n => do (← items? n).mapM definition?) (fields.lookup "tags")

/-! ### Files -/

/-- The name of the file that declares tags. -/
def fileName : String := "jellyforge.yaml"

/-- The path of the file that declares the tags of a tree of templates. -/
def pathIn (root : Path) : Path := root.join fileName

/-- The definitions of a file. -/
def load (t : FileTree) (p : Path) : Except ExtensionError (List Definition) :=
  match t.readText p with
  | .error e => .error (.unreadable p e)
  | .ok text =>
    match (Yaml.parse text).bind decode with
    | some ds => .ok ds
    | none => .error (.malformed p)

/-- The definitions of a tree of templates, if it has a file that declares tags. -/
def detect (t : FileTree) (root : Path) : Except ExtensionError (Option (List Definition)) :=
  if t.isFile (pathIn root) then (load t (pathIn root)).map some else .ok none

/-! ### Registries -/

/-- The operation of a definition, added to the registry. -/
def registerOne (r : Registry) (d : Definition) : Except ExtensionError Registry :=
  match d.operation with
  | .error defect => .error (.invalid d.name defect)
  | .ok op =>
    match r.register op with
    | .error e => .error (.rejected e)
    | .ok r => .ok r

/-- Adds the operations of definitions up to the first that is refused: the registry with those
before it, and the refusal. -/
def registerAll (r : Registry) : List Definition → Registry × Option ExtensionError
  | [] => (r, none)
  | d :: ds =>
    match registerOne r d with
    | .ok r => registerAll r ds
    | .error e => (r, some e)

/-- Adds the operations of definitions: the registry behind it, and how many were added, or why one
was refused. -/
def declare (r : Registry) (ds : List Definition) : Registry × Except ExtensionError Nat :=
  match registerAll r ds with
  | (r, none) => (r, .ok ds.length)
  | (r, some e) => (r, .error e)

/-- The vocabulary and the tags that a tree of templates declares. -/
def registryFor (t : FileTree) (root : Path) : Except ExtensionError Registry := do
  match ← detect t root with
  | none => return Registry.standard
  | some ds =>
    match registerAll Registry.standard ds with
    | (r, none) => return r
    | (_, some e) => throw e

end Extension

end JellyViews
