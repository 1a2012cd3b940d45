/-
**Expressions by their bytes, and as references.**

The markers of an expression can be told by its bytes: the token begins and ends with them and is
longer than both together, so that something is left between them.  This can then be cut out at two
byte positions.  A cut needs positions in the right order within the text, and none inside a
character; markers are whole characters, so that a cut between them never fails, whatever
characters are beside them.

Main definitions:

* `Text.slice?` — the text between two byte positions, if they can be cut at;
* `Expression.marked` — whether a token has markers, by its bytes;
* `Expression.sliced?` — what is between the markers, by byte positions.

Main results:

* `Text.slice?_append` — a text between two others is cut out by their sizes;
* `Expression.exists_eq_wrap` — the markers of a token cannot overlap;
* `Expression.isDynamic_eq_marked` — **the bytes tell which tokens have markers**;
* `Expression.sliced?_wrap` — **what is between the markers can be cut out**;
* `Expression.collection_eq_self_iff` — only expressions are references to collections already;
* `Expression.markers_codec` — markers and references together.
-/

import JellyViews.Proofs.Expression

set_option relaxedAutoImplicit false
set_option autoImplicit false

namespace JellyViews

/-! ### Cutting at bytes -/

namespace Text

/-- The text between two byte positions; `none` if they are out of order, out of the text or inside
a character. -/
def slice? (s : String) (first last : Nat) : Option String :=
  if h : first ≤ last ∧ String.Pos.Raw.IsValid s ⟨first⟩ ∧ String.Pos.Raw.IsValid s ⟨last⟩ then
    some (s.extract (s.pos ⟨first⟩ h.2.1) (s.pos ⟨last⟩ h.2.2))
  else none

/-- A text that stands between two others is cut out by their sizes. -/
theorem slice?_append (front s back : String) :
    slice? (front ++ s ++ back) front.utf8ByteSize (front.utf8ByteSize + s.utf8ByteSize) =
      some s := by
  have hfirst : String.Pos.Raw.IsValid (front ++ s ++ back) ⟨front.utf8ByteSize⟩ :=
    String.Pos.Raw.isValid_iff_exists_append.2 ⟨front, s ++ back, String.append_assoc, rfl⟩
  have hlast : String.Pos.Raw.IsValid (front ++ s ++ back)
      ⟨front.utf8ByteSize + s.utf8ByteSize⟩ :=
    String.Pos.Raw.isValid_iff_exists_append.2
      ⟨front ++ s, back, rfl, by simp [String.Pos.Raw.ext_iff]⟩
  have hcut : ((front ++ s ++ back).toByteArray.extract front.utf8ByteSize
      (front.utf8ByteSize + s.utf8ByteSize)) = s.toByteArray := by
    have hfront := ByteArray.extract_append_size_add (a := front.toByteArray)
      (b := s.toByteArray ++ back.toByteArray) (i := 0) (j := s.toByteArray.size)
    rw [Nat.add_zero, ByteArray.extract_append_eq_left rfl] at hfront
    rw [String.toByteArray_append, String.toByteArray_append, ByteArray.append_assoc]
    exact hfront
  rw [slice?, dif_pos ⟨Nat.le_add_right _ _, hfirst, hlast⟩, Option.some_inj,
    ← String.toByteArray_inj]
  exact hcut

/-- A character of three bytes is cut out as a whole, or not at all. -/
example : slice? "a€b" 1 4 = some "€" ∧ slice? "a€b" 1 3 = none ∧ slice? "a€b" 4 1 = none := by
  decide

end Text

namespace Expression

/-! ### Markers -/

/-- Whether a token has markers, by its bytes: it is longer than the markers and has one of them at
each end. -/
def marked (token : String) : Bool :=
  decide (openMarker.utf8ByteSize + closeMarker.utf8ByteSize < token.utf8ByteSize) &&
    token.startsWith openMarker && token.endsWith closeMarker

/-- What is between the markers, by byte positions. -/
def sliced? (token : String) : Option String :=
  Text.slice? token openMarker.utf8ByteSize (token.utf8ByteSize - closeMarker.utf8ByteSize)

theorem isDynamic_iff {token : String} :
    isDynamic token = true ↔ ∃ inner, inner ≠ "" ∧ token = wrap inner := by
  rw [← unwrap?_isSome, Option.isSome_iff_exists]
  exact exists_congr fun inner => unwrap?_eq_some_iff

theorem isDynamic_wrap {inner : String} (h : inner ≠ "") : isDynamic (wrap inner) = true :=
  isDynamic_iff.2 ⟨inner, h, rfl⟩

/-- A token that begins and ends with the markers has both of them: they cannot overlap, as the
opening marker does not end with the closing one. -/
theorem exists_eq_wrap {token : String} (hopen : openMarker.toList <+: token.toList)
    (hclose : closeMarker.toList <:+ token.toList) : ∃ inner, token = wrap inner := by
  obtain ⟨rest, hrest⟩ := hopen
  obtain ⟨front, hfront⟩ := hclose
  have hends : (front ++ closeMarker.toList).getLast? = (openMarker.toList ++ rest).getLast? := by
    rw [hfront, hrest]
  rw [show closeMarker.toList = ['\x7d'] from rfl, List.getLast?_concat] at hends
  rcases List.eq_nil_or_concat rest with rfl | ⟨mid, c, rfl⟩
  · exact absurd hends (by decide)
  · rw [List.concat_eq_append, ← List.append_assoc, List.getLast?_concat] at hends
    obtain rfl := Option.some.inj hends
    refine ⟨String.ofList mid, ?_⟩
    rw [← String.toList_inj, toList_wrap, String.toList_ofList, ← hrest, List.concat_eq_append]
    rfl

theorem marked_iff {token : String} :
    marked token = true ↔ ∃ inner, inner ≠ "" ∧ token = wrap inner := by
  rw [marked, Bool.and_eq_true, Bool.and_eq_true, decide_eq_true_eq, String.startsWith_string_iff,
    ← String.endsWith_toSlice, String.Slice.endsWith_string_iff, String.copy_toSlice]
  constructor
  · rintro ⟨⟨hsize, hopen⟩, hclose⟩
    obtain ⟨inner, rfl⟩ := exists_eq_wrap hopen hclose
    refine ⟨inner, fun hempty => ?_, rfl⟩
    -- the two markers alone are too short
    rw [hempty] at hsize
    exact absurd hsize (by decide)
  · rintro ⟨inner, hne, rfl⟩
    have hpos : 0 < inner.utf8ByteSize :=
      Nat.pos_of_ne_zero fun hzero => hne (String.utf8ByteSize_eq_zero_iff.1 hzero)
    refine ⟨⟨?_, ?_⟩, ?_⟩
    · rw [wrap, String.utf8ByteSize_append, String.utf8ByteSize_append]
      omega
    · rw [wrap, String.toList_append, String.toList_append, List.append_assoc]
      exact List.prefix_append _ _
    · rw [wrap, String.toList_append]
      exact List.suffix_append _ _

/-- **The bytes tell which tokens have markers.** -/
theorem isDynamic_eq_marked (token : String) : isDynamic token = marked token := by
  rw [Bool.eq_iff_iff, isDynamic_iff, marked_iff]

/-- **What is between the markers can be cut out**, whatever characters it has. -/
theorem sliced?_wrap (inner : String) : sliced? (wrap inner) = some inner := by
  have hlast : (wrap inner).utf8ByteSize - closeMarker.utf8ByteSize =
      openMarker.utf8ByteSize + inner.utf8ByteSize := by
    rw [wrap, String.utf8ByteSize_append, String.utf8ByteSize_append, Nat.add_sub_cancel]
  rw [sliced?, hlast, wrap]
  exact Text.slice?_append openMarker inner closeMarker

/-! ### References -/

/-- A reference to a collection is an expression. -/
theorem isDynamic_collection (token : String) : isDynamic (collection token) = true := by
  unfold collection
  split
  · assumption
  · exact isDynamic_wrap (by simp [descriptorRoot])

/-- Only expressions are references to collections already. -/
theorem collection_eq_self_iff {token : String} :
    collection token = token ↔ isDynamic token = true := by
  constructor
  · intro h
    have hdynamic := isDynamic_collection token
    rwa [h] at hdynamic
  · exact fun h => if_pos h

/-- The value that a field shows is an expression, and its leaf is what is looked up. -/
theorem unwrap?_boundValue (field : String) :
    unwrap? (boundValue field) = some (instanceRoot ++ "." ++ leaf field) :=
  unwrap?_wrap (by simp [instanceRoot])

/-- A leaf has no dots, and is the whole name or what follows a dot in it. -/
theorem of_leaf (field : String) :
    '.' ∉ (leaf field).toList ∧
      (field = leaf field ∨ ∃ front, field = front ++ "." ++ leaf field) := by
  have hleaf : LeafOf field (leaf field) := leafOf_iff.2 rfl
  generalize leaf field = x at hleaf
  cases hleaf with
  | whole hdot => exact ⟨hdot, .inl rfl⟩
  | behind front hdot => exact ⟨hdot, .inr ⟨front, rfl⟩⟩

/-- **Markers and references.**  The bytes of a text tell whether it has markers; what is between
them can be cut out, and gives the text back when the markers are put around it.  Markers around a
text can be taken away again, unless the text is empty.  The reference to a collection is always an
expression, is the text itself exactly if that is one, and is its own reference.  The value that a
field shows looks up what is behind the last dot of its name. -/
theorem markers_codec (t : String) :
    isDynamic t = marked t ∧
    (isDynamic t = true →
      ∃ inner, sliced? t = some inner ∧ unwrap? t = some inner ∧ wrap inner = t) ∧
    (isDynamic t = false → unwrap? t = none) ∧
    (unwrap? (wrap t) = some t ↔ t ≠ "") ∧
    isDynamic (collection t) = true ∧
    (collection t = t ↔ isDynamic t = true) ∧
    collection (collection t) = collection t ∧
    isDynamic (boundValue t) = true ∧
    ∃ s, unwrap? (boundValue t) = some ("instance." ++ s) ∧ '.' ∉ s.toList ∧
      (t = s ∨ ∃ front, t = front ++ "." ++ s) := by
  refine ⟨isDynamic_eq_marked t, ?_, ?_, ?_, isDynamic_collection t, collection_eq_self_iff,
    collection_eq_self_iff.2 (isDynamic_collection t), ?_, leaf t, unwrap?_boundValue t, of_leaf t⟩
  · intro h
    obtain ⟨inner, hne, rfl⟩ := isDynamic_iff.1 h
    exact ⟨inner, sliced?_wrap inner, unwrap?_wrap hne, rfl⟩
  · intro h
    rw [← Option.not_isSome_iff_eq_none, unwrap?_isSome, h]
    exact Bool.false_ne_true
  · constructor
    · exact fun h => (unwrap?_eq_some_iff.1 h).1
    · exact unwrap?_wrap
  · rw [← unwrap?_isSome, unwrap?_boundValue, Option.isSome_some]

/-- Characters of two and three bytes stand beside the markers here; nothing stands between them
there. -/
theorem markers_codec_beside :
    isDynamic "$\x7bé€\x7d" = true ∧
    (∃ inner, sliced? "$\x7bé€\x7d" = some inner ∧ unwrap? "$\x7bé€\x7d" = some inner ∧
      wrap inner = "$\x7bé€\x7d") ∧
    isDynamic "$\x7b\x7d" = false ∧ unwrap? "$\x7b\x7d" = none := by
  have hwide : isDynamic "$\x7bé€\x7d" = true := by decide
  have hbare : isDynamic "$\x7b\x7d" = false := by decide
  exact ⟨hwide, (markers_codec _).2.1 hwide, hbare, (markers_codec _).2.2.1 hbare⟩

end Expression

end JellyViews
