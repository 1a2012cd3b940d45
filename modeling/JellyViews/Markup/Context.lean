/-
**Writing nested elements.**

A context is what one rendering has written together with the elements that are open, innermost
first.  Only the innermost open element may be closed.  Blocks are the bodies of elements: they
write into the context they are given, and learn from their scope which loop variable is in force.
A failing write keeps what was written before it.

Main definitions:

* `Markup.Scope` — what an element hands to its body;
* `Markup.Note` — what a body recorded: the scope it saw, or an error it recovered from;
* `Markup.Context` — the text, the open elements and the notes;
* `Markup.Render`, `Markup.Block` — writing steps that may fail, and bodies;
* `Markup.append`, `Markup.openTag`, `Markup.closeTag`, `Markup.voidTag`, `Markup.element`;
* `Markup.Context.finish` — the text of a rendering whose elements are all closed.
-/

import JellyViews.Markup.Buffer
import JellyViews.Tag.Error

set_option relaxedAutoImplicit false
set_option autoImplicit false

namespace JellyViews

namespace Markup

/-! ### Contexts -/

/-- What an element hands to its body: the variable of the loop, for loops. -/
structure Scope where
  var : Option String
deriving DecidableEq

/-- The scope of an element that is no loop. -/
def Scope.plain : Scope := ⟨none⟩

/-- What a body recorded, with the number of elements open at that moment. -/
inductive Note where
  | scope (var : Option String) (depth : Nat)
  | caught (error : TagError) (depth : Nat)

/-- The state of one rendering; the innermost open element comes first. -/
structure Context where
  buffer : Buffer
  openElements : List String
  notes : Array Note

namespace Context

/-- A rendering that has written nothing. -/
def empty : Context := ⟨Buffer.empty, [], #[]⟩

instance : EmptyCollection Context := ⟨empty⟩

instance : Inhabited Context := ⟨empty⟩

/-- The text written so far. -/
def text (c : Context) : String := c.buffer.text

/-- The number of open elements. -/
def depth (c : Context) : Nat := c.openElements.length

/-- Writes a piece. -/
def push (c : Context) (p : Piece) : Context := { c with buffer := c.buffer.push p }

/-- Records a note. -/
def note (c : Context) (n : Note) : Context := { c with notes := c.notes.push n }

/-- The text, provided that every element is closed. -/
def finish (c : Context) : Except TagError String :=
  match c.openElements with
  | [] => .ok c.text
  | e :: es => .error (.unclosedTags (e :: es).reverse)

@[simp] theorem text_empty : empty.text = "" := rfl

@[simp] theorem openElements_empty : empty.openElements = [] := rfl

@[simp] theorem text_push (c : Context) (p : Piece) : (c.push p).text = c.text ++ p.text :=
  Buffer.text_push c.buffer p

@[simp] theorem openElements_push (c : Context) (p : Piece) :
    (c.push p).openElements = c.openElements := rfl

end Context

/-! ### Writing steps -/

/-- A step that writes into a context and may fail; what it wrote before it failed stays. -/
abbrev Render (α : Type) : Type := ExceptT TagError (StateM Context) α

/-- Runs a step on a context. -/
def Render.on {α : Type} (step : Render α) (c : Context) : Except TagError α × Context :=
  StateT.run (ExceptT.run step) c

/-- A body: it writes into the context, given the scope of its element. -/
abbrev Block : Type := Scope → Render Unit

/-- Writes a literal text. -/
def append (text : String) : Render Unit := modify fun c => c.push (.literal text)

/-- Opens an element. -/
def openTag (element : String) (attrs : Attributes) : Render Unit :=
  modify fun c =>
    { c.push (.startTag element attrs) with openElements := element :: c.openElements }

/-- Closes an element, which must be the innermost open one. -/
def closeTag (element : String) : Render Unit := do
  let c ← get
  match c.openElements with
  | top :: rest =>
    if top = element then set { c.push (.endTag element) with openElements := rest }
    else throw (.unbalancedClose (some top) element)
  | [] => throw (.unbalancedClose none element)

/-- Writes an element without content. -/
def voidTag (element : String) (attrs : Attributes) : Render Unit :=
  modify fun c => c.push (.voidTag element attrs)

/-- Records a note about the context at this moment. -/
def record (n : Nat → Note) : Render Unit := modify fun c => c.note (n c.depth)

/-- Runs a body that may be absent. -/
def runBody (scope : Scope) : Option Block → Render Unit
  | some body => body scope
  | none => pure ()

/-- Writes an element around its body.  If the body fails, the element stays open. -/
def element (name : String) (attrs : Attributes) (body : Option Block) (scope : Scope) :
    Render Unit := do
  openTag name attrs
  runBody scope body
  closeTag name

/-- The block that writes a text. -/
def textBlock (text : String) : Block := fun _ => append text

/-- Bytes from outside: they must be UTF-8, and the answer is their number. -/
def writeBytes (bytes : ByteArray) : Render Nat :=
  match String.fromUTF8? bytes with
  | some text => do
    append text
    pure bytes.size
  | none => throw .invalidUtf8

end Markup

end JellyViews
