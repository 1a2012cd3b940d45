/-
**Operations by name.**

A registry holds operations in the order of their names, no name twice.  Registering refuses a name
that is taken, so no later operation can stand in for an earlier one.  A call can be written into a
context, or turned into a text of its own by writing it into an empty context.

Main definitions:

* `Tag.Registry` — operations in strictly ascending order of names;
* `Tag.Registry.register`, `Tag.Registry.get` — adding and finding an operation;
* `Tag.Registry.standard` — the registry of the vocabulary;
* `Tag.Registry.emit`, `Tag.Registry.express` — the two ways to run a call.

Main results:

* `Tag.pairwise_place` — putting an operation at its place keeps the order.
-/

import JellyViews.Tag.Vocabulary

set_option relaxedAutoImplicit false
set_option autoImplicit false

namespace JellyViews

namespace Tag

open Markup

/-! ### Ordered lists of operations -/

/-- Whether the first operation comes before the second by name. -/
def Precedes (a b : Operation) : Prop := a.name < b.name

/-- Puts an operation at its place, in the stead of one that has its name. -/
def place (op : Operation) : List Operation → List Operation
  | [] => [op]
  | a :: r =>
    if op.name < a.name then op :: a :: r
    else if a.name < op.name then a :: place op r
    else op :: r

/-- The operation of a name. -/
def findNamed (name : String) (ops : List Operation) : Option Operation :=
  ops.find? fun op => op.name == name

theorem mem_place {op b : Operation} {ops : List Operation} (h : b ∈ place op ops) :
    b = op ∨ b ∈ ops := by
  induction ops with
  | nil => simpa [place] using h
  | cons a r ih =>
    unfold place at h
    split at h
    · simpa using h
    · split at h
      · rcases List.mem_cons.1 h with h | h
        · exact .inr (by simp [h])
        · rcases ih h with h | h
          · exact .inl h
          · exact .inr (List.mem_cons_of_mem _ h)
      · rcases List.mem_cons.1 h with h | h
        · exact .inl h
        · exact .inr (List.mem_cons_of_mem _ h)

theorem name_eq_of_not_lt {a b : Operation} (h : ¬ a.name < b.name) (h' : ¬ b.name < a.name) :
    a.name = b.name :=
  String.le_antisymm (String.not_lt.1 h') (String.not_lt.1 h)

theorem pairwise_place (op : Operation) {ops : List Operation} (h : ops.Pairwise Precedes) :
    (place op ops).Pairwise Precedes := by
  induction ops with
  | nil => simp [place]
  | cons a r ih =>
    have hr := List.pairwise_cons.1 h
    unfold place
    split
    · rename_i hlt
      refine List.pairwise_cons.2 ⟨fun b hb => ?_, h⟩
      rcases List.mem_cons.1 hb with hb | hb
      · exact hb ▸ hlt
      · exact String.lt_trans hlt (hr.1 b hb)
    · rename_i hle
      split
      · rename_i hlt
        refine List.pairwise_cons.2 ⟨fun b hb => ?_, ih hr.2⟩
        rcases mem_place hb with hb | hb
        · exact hb ▸ hlt
        · exact hr.1 b hb
      · rename_i hge
        refine List.pairwise_cons.2 ⟨fun b hb => ?_, hr.2⟩
        have hab : a.name < b.name := hr.1 b hb
        have : op.name < b.name := name_eq_of_not_lt hge hle ▸ hab
        exact this

/-! ### Registries -/

/-- Operations in strictly ascending order of names. -/
structure Registry where
  ops : List Operation
  ordered : ops.Pairwise Precedes

namespace Registry

/-- The registry without operations. -/
def empty : Registry := ⟨[], List.Pairwise.nil⟩

instance : EmptyCollection Registry := ⟨empty⟩

instance : Inhabited Registry := ⟨empty⟩

/-- The registry with the operation in place. -/
def insert (r : Registry) (op : Operation) : Registry :=
  ⟨place op r.ops, pairwise_place op r.ordered⟩

/-- The operation of a name. -/
def find? (r : Registry) (name : String) : Option Operation := findNamed name r.ops

/-- Whether the name is taken. -/
def contains (r : Registry) (name : String) : Bool := (r.find? name).isSome

/-- The operation of a name; a name without operation is an error. -/
def get (r : Registry) (name : String) : Except TagError Operation :=
  match r.find? name with
  | some op => .ok op
  | none => .error (.unknownTag name)

/-- Adds an operation, unless its name is taken. -/
def register (r : Registry) (op : Operation) : Except TagError Registry :=
  if r.contains op.name then .error (.duplicateTag op.name) else .ok (r.insert op)

/-- The number of operations. -/
def size (r : Registry) : Nat := r.ops.length

/-- The names of the operations, in order. -/
def names (r : Registry) : List String := r.ops.map Operation.name

/-- The registry of the vocabulary. -/
def standard : Registry := vocabulary.foldl insert empty

/-- The names as a report lists them. -/
def listing (r : Registry) : String :=
  "TagRegistry \x7b ops: [" ++ String.intercalate ", " (r.names.map Text.quoted) ++ "] \x7d"

/-! ### Running calls -/

/-- Writes the call of an operation around a body. -/
def emit (r : Registry) (name : String) (call : Call) (body : Option Block) : Render Unit :=
  match r.get name with
  | .ok op => op.emit call body
  | .error e => throw e

/-- Writes a call into an empty context; the answer is the text and what the body recorded. -/
def express (r : Registry) (name : String) (call : Call) (body : Option Block) :
    Except TagError String × Array Note :=
  match (r.emit name call body).on Context.empty with
  | (.ok _, c) => (c.finish, c.notes)
  | (.error e, c) => (.error e, c.notes)

/-- The text of a call. -/
def renderExpr (r : Registry) (name : String) (call : Call) (body : Option Block) :
    Except TagError String :=
  (r.express name call body).1

end Registry

end Tag

end JellyViews
