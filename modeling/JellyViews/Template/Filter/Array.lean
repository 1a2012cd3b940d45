/-
**Filters on arrays and objects.**

Sorting and telling items apart go by a key: the item itself or a part of it.  The keys are all of
the kind of the first one.

Main definitions:

* `Template.Key` — what items are sorted by;
* `Template.sorting`, `Template.distinct` — the filters that sort and that drop repeated items;
* `Template.arrayFilters` — the filters by name.
-/

import JellyViews.OrderedMap
import JellyViews.Template.Filter.Basic
import JellyViews.Text.Lowercase

set_option relaxedAutoImplicit false
set_option autoImplicit false

namespace JellyViews

namespace Template

/-! ### Items -/

/-- The item that stands for a missing one. -/
def noItem : Json := .string ""

/-- The filter for one item of an array. -/
def itemAt : Filter := fun v args => do
  let vs ← wantValue "nth" .items v
  if vs.isEmpty then return noItem
  let n ← requireArgument "nth" .count args "n" (.lacking "nth" "an" "n")
  return (vs[n]?).getD noItem

/-- The filter that joins the texts of items. -/
def joining : Filter := fun v args => do
  let vs ← wantValue "join" .items v
  let mark ← wantArgument "truncate" .text args "sep"
  return .string (String.intercalate (unescaped (mark.getD "")) (vs.map shown))

/-- The index that a number means in an array: a negative one counts from the end. -/
def indexOf (size : Nat) (x : Float) : Nat :=
  (if x < 0.0 then Float.ofNat size + x else x).toUInt64.toNat

/-- The filter for the items between two indices. -/
def slicing : Filter := fun v args => do
  let vs ← wantValue "slice" .items v
  if vs.isEmpty then return .array []
  let first ← wantArgument "slice" .double args "start"
  let last ← wantArgument "slice" .double args "end"
  let first := (first.map (indexOf vs.length)).getD 0
  let last := (last.map (indexOf vs.length)).getD vs.length
  return .array ((vs.take last).drop first)

/-- The filter that puts items behind those of an array. -/
def extending : Filter := fun v args => do
  let vs ← wantValue "concat" .items v
  match args.lookup "with" with
  | none => .error (.filter (.lacking "concat" "a" "with"))
  | some (.array ws) => return .array (vs ++ ws)
  | some w => return .array (vs ++ [w])

/-! ### Keys -/

/-- What items are sorted by: truth values, numbers, texts, or the lengths of arrays. -/
inductive Key where
  | bool (b : Bool)
  | number (x : Float)
  | text (s : String)
  | length (n : Nat)

/-- Whether the first key comes before the second or is as good as it. -/
def Key.le : Key → Key → Bool
  | bool a, bool b => !a || b
  | number a, number b => decide (a ≤ b)
  | text a, text b => decide (a ≤ b)
  | length a, length b => decide (a ≤ b)
  | _, _ => true

/-- The key of a value that is of the same kind as the first one. -/
def keyLike (first v : Json) : Except FilterFault Key :=
  match first, v with
  | .null, _ => .error (.unordered "Null")
  | .object _, _ => .error (.unordered "Object")
  | .bool _, .bool b => .ok (.bool b)
  | .bool _, w => .error (.otherKind "bool" w)
  | .string _, .string s => .ok (.text s)
  | .string _, w => .error (.otherKind "string" w)
  | .array _, .array vs => .ok (.length vs.length)
  | .array _, w => .error (.otherKind "array" w)
  | _, w => if isNumber w then .ok (.number (toDouble w)) else .error (.otherKind "number" w)

/-- The value by which an item is sorted. -/
def keyValue (path : String) (v : Json) : Except FilterFault Json :=
  if path = "" then .ok v
  else
    match part? v path with
    | some w => .ok w
    | none => .error (.unknownPart path)

/-- The items with their keys. -/
def keyed (path : String) (first : Json) : List Json → Except FilterFault (List (Key × Json))
  | [] => .ok []
  | v :: vs => do
    let w ← keyValue path v
    let key ← keyLike first w
    let rest ← keyed path first vs
    return (key, v) :: rest

/-- The items in the order of their keys; items with equal keys keep their order. -/
def sortedBy (path : String) : List Json → Except FilterFault (List Json)
  | [] => .ok []
  | v :: vs => do
    let first ← keyValue path v
    let pairs ← keyed path first (v :: vs)
    return (pairs.mergeSort fun a b => a.1.le b.1).map Prod.snd

/-- A fault of a filter as a fault of the template. -/
def ofFilter {α : Type} : Except FilterFault α → Except Fault α
  | .ok a => .ok a
  | .error e => .error (.filter e)

/-- The filter that sorts. -/
def sorting : Filter := fun v args => do
  let vs ← wantValue "sort" .items v
  if vs.isEmpty then return .array []
  let path ← wantArgument "sort" .text args "attribute"
  let sorted ← ofFilter (sortedBy (path.getD "") vs)
  return .array sorted

/-! ### Repeated items -/

/-- Whether two values are of one kind. -/
def sameKind (a b : Json) : Bool :=
  match a, b with
  | .null, .null => true
  | .bool _, .bool _ => true
  | .string _, .string _ => true
  | .array _, .array _ => true
  | .object _, .object _ => true
  | _, _ => isNumber a && isNumber b

/-- Why items like this one are not told apart. -/
def indistinctness : Json → Option FilterFault
  | .null => some (.indistinct "Null is not a unique value")
  | .float _ => some (.indistinct "Unique floats are not implemented")
  | .array _ => some (.indistinct "Unique arrays are not implemented")
  | .object _ => some (.indistinct "Unique objects are not implemented")
  | _ => none

/-- The value by which an item is told apart: small and capital letters may count as equal. -/
def distinction (exact : Bool) : Json → Except FilterFault Json
  | .string s => .ok (.string (if exact then s else Text.lowerText s))
  | .float x => .error (.otherKind "number" (.float x))
  | v => .ok v

/-- The items whose key has not been seen yet; an item without a key is dropped. -/
def unseen (path : String) (exact : Bool) (first : Json) (seen : List Json) :
    List Json → Except FilterFault (List Json)
  | [] => .ok []
  | v :: vs =>
    match (if path = "" then some v else part? v path) with
    | none => unseen path exact first seen vs
    | some w =>
      if !sameKind first w then .error .mixed
      else
        match distinction exact w with
        | .error e => .error e
        | .ok key =>
          if seen.contains key then unseen path exact first seen vs
          else (unseen path exact first (key :: seen) vs).map (v :: ·)

/-- The first item of each kind of equal ones. -/
def firstOccurrences (path : String) (exact : Bool) : List Json → Except FilterFault (List Json)
  | [] => .ok []
  | v :: vs => do
    let first ← keyValue path v
    match indistinctness first with
    | some e => .error e
    | none => unseen path exact first [] (v :: vs)

/-- The filter that drops repeated items. -/
def distinct : Filter := fun v args => do
  let vs ← wantValue "unique" .items v
  if vs.isEmpty then return .array []
  let exact ← wantArgument "unique" .truth args "case_sensitive"
  let path ← wantArgument "unique" .text args "attribute"
  let kept ← ofFilter (firstOccurrences (path.getD "") (exact.getD false) vs)
  return .array kept

/-! ### Parts of items -/

/-- The path of the parts that a filter is about. -/
def partPath (filter : String) (args : Values) : Except Fault String :=
  requireArgument filter .text args "attribute" (.lacking filter "an" "attribute")

/-- The part of a value; null if it has none. -/
def partOrNull (v : Json) (path : String) : Json := (part? v path).getD .null

/-- Whether a value is null. -/
def isNull : Json → Bool
  | .null => true
  | _ => false

/-- The filter for the items whose part has a value, or has any value at all. -/
def selecting : Filter := fun v args => do
  let vs ← wantValue "filter" .items v
  if vs.isEmpty then return .array []
  let path ← partPath "filter" args
  let wanted := (args.lookup "value").getD .null
  return .array (vs.filter fun w =>
    let part := partOrNull w path
    if isNull wanted then !isNull part else part == wanted)

/-- The filter for the parts of items. -/
def mapping : Filter := fun v args => do
  let vs ← wantValue "map" .items v
  if vs.isEmpty then return .array []
  let path ← partPath "map" args
  return .array ((vs.map fun w => partOrNull w path).filter fun w => !isNull w)

/-- The name of the group of an item: a text, or the text of another value. -/
def groupName : Json → String
  | .string s => s
  | v => v.compact

/-- Puts an item into the group of its name. -/
def addToGroup (path : String) (groups : OrderedMap String (List Json)) (v : Json) :
    OrderedMap String (List Json) :=
  let part := partOrNull v path
  if isNull part then groups
  else groups.insert (groupName part) ((groups.get? (groupName part)).getD [] ++ [v])

/-- The filter that puts items with equal parts into groups, ordered by name. -/
def grouping : Filter := fun v args => do
  let vs ← wantValue "group_by" .items v
  if vs.isEmpty then return .object []
  let path ← partPath "group_by" args
  let groups := vs.foldl (addToGroup path) OrderedMap.empty
  return .object ((groups.sortBy fun a b => decide (a ≤ b)).entries.map fun g =>
    (g.1, .array g.2))

/-- The filter for a field of an object. -/
def getting : Filter := fun v args => do
  let key ← requireArgument "get" .text args "key" (.lacking "get" "an" "key")
  match v with
  | .object fields =>
    match fields.lookup key <|> args.lookup "default" with
    | some w => return w
    | none => .error (.filter (.unknownKey key))
  | _ => .error (.filter .keyless)

/-- The filters on arrays and objects. -/
def arrayFilters : List (String × Filter) :=
  [("first", onForm "first" .items fun vs => vs.headD noItem),
   ("last", onForm "last" .items fun vs => vs.getLastD noItem),
   ("nth", itemAt), ("join", joining), ("slice", slicing), ("concat", extending),
   ("sort", sorting), ("unique", distinct), ("filter", selecting), ("map", mapping),
   ("group_by", grouping), ("get", getting)]

end Template

end JellyViews
