/-
**The text written so far.**

Output grows by pieces: literal text, start tags, end tags and void tags.  A piece with an empty
text is not kept, so the number of pieces counts the writes that wrote something.

Main definitions:

* `Markup.Piece`, `Markup.Piece.text` — a write and what it wrote;
* `Markup.Buffer` — the pieces in order;
* `Markup.Buffer.push`, `Markup.Buffer.text`, `Markup.Buffer.byteCount`, `Markup.Buffer.count`.

Main results:

* `Markup.Buffer.text_push` — a push appends the text of its piece.
-/

import JellyViews.Markup.Attributes

set_option relaxedAutoImplicit false
set_option autoImplicit false

namespace JellyViews

namespace Markup

/-! ### Pieces -/

/-- One write. -/
inductive Piece where
  | literal (text : String)
  | startTag (element : String) (attrs : Attributes)
  | endTag (element : String)
  | voidTag (element : String) (attrs : Attributes)

/-- The element and its attributes, as they stand in a start or void tag. -/
def tagInside (element : String) (attrs : Attributes) : String :=
  if attrs.entries = [] then element else element ++ " " ++ attrs.encode

/-- The text of a piece. -/
def Piece.text : Piece → String
  | literal text => text
  | startTag element attrs => "<" ++ tagInside element attrs ++ ">"
  | endTag element => "</" ++ element ++ ">"
  | voidTag element attrs => "<" ++ tagInside element attrs ++ "/>"

/-! ### Buffers -/

/-- Joins texts without anything between them. -/
def joined (texts : List String) : String := texts.foldl (· ++ ·) ""

/-- The pieces written so far, without empty ones. -/
structure Buffer where
  pieces : Array Piece

namespace Buffer

/-- Nothing written. -/
def empty : Buffer := ⟨#[]⟩

instance : EmptyCollection Buffer := ⟨empty⟩

instance : Inhabited Buffer := ⟨empty⟩

/-- Writes a piece; an empty text is no piece. -/
def push (b : Buffer) (p : Piece) : Buffer :=
  if p.text = "" then b else ⟨b.pieces.push p⟩

/-- Writes a literal text. -/
def pushText (b : Buffer) (s : String) : Buffer := b.push (.literal s)

/-- The text written so far. -/
def text (b : Buffer) : String := joined (b.pieces.toList.map Piece.text)

/-- The number of pieces. -/
def count (b : Buffer) : Nat := b.pieces.size

/-- The length of the text in UTF-8 bytes. -/
def byteCount (b : Buffer) : Nat := b.text.utf8ByteSize

/-- Whether nothing was written. -/
def isEmpty (b : Buffer) : Bool := b.byteCount == 0

/-- What was written after the first `n` pieces. -/
def textSince (b : Buffer) (n : Nat) : String := joined ((b.pieces.toList.drop n).map Piece.text)

@[simp] theorem text_empty : empty.text = "" := rfl

@[simp] theorem count_empty : empty.count = 0 := rfl

theorem text_push (b : Buffer) (p : Piece) : (b.push p).text = b.text ++ p.text := by
  unfold push
  split
  · rename_i h
    simp [h]
  · simp [text, joined]

theorem count_push (b : Buffer) (p : Piece) :
    (b.push p).count = b.count + (if p.text = "" then 0 else 1) := by
  unfold push
  split <;> simp [count]

end Buffer

end Markup

end JellyViews
