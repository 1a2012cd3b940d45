/-
**The order of texts is the order of their bytes.**

Texts are compared character by character.  In UTF-8 a smaller character has the smaller bytes: of
two encodings the one of the smaller character is smaller at the first byte at which they differ,
and neither is the beginning of the other.  So it makes no difference whether texts are compared by
their characters or by their bytes.

Main definitions:

* `Text.bytes` — the bytes of a text.

Main results:

* `Text.encoded_lt_encoded` — a smaller character has the smaller bytes;
* `Text.bytes_lt_iff` — **texts are in the order of their bytes**.
-/

import Mathlib.Order.Defs.LinearOrder

set_option relaxedAutoImplicit false
set_option autoImplicit false

namespace JellyViews

namespace Text

open String (utf8EncodeChar)

/-- The bytes of a text. -/
def bytes (s : String) : List UInt8 := s.toUTF8.data.toList

theorem bytes_eq (s : String) : bytes s = s.toList.flatMap utf8EncodeChar := by
  rw [bytes, String.toUTF8_eq_toByteArray, ← String.utf8Encode_toList, List.utf8Encode,
    List.data_toByteArray]

/-- Bytes are compared as numbers. -/
theorem cons_lt_cons_iff {m n : Nat} (hm : m < 256) (hn : n < 256) {xs ys : List UInt8} :
    UInt8.ofNat m :: xs < UInt8.ofNat n :: ys ↔ m < n ∨ m = n ∧ xs < ys := by
  rw [List.cons_lt_cons_iff, UInt8.lt_iff_toNat_lt, ← UInt8.toNat_inj, UInt8.toNat_ofNat',
    UInt8.toNat_ofNat', Nat.mod_eq_of_lt hm, Nat.mod_eq_of_lt hn]

/-- **A smaller character has the smaller bytes**, whatever comes behind it. -/
theorem encoded_lt_encoded {c d : Char} (h : c < d) (xs ys : List UInt8) :
    utf8EncodeChar c ++ xs < utf8EncodeChar d ++ ys := by
  have hlt : c.val.toNat < d.val.toNat := h
  have hd : d.val.toNat < 0x110000 := by
    have hvalid := d.valid
    simp only [UInt32.isValidChar, Nat.isValidChar] at hvalid
    omega
  -- each byte behind the first one is a digit to the base 64
  have hdigits (n : Nat) : n / 4096 = n / 64 / 64 ∧ n / 262144 = n / 64 / 64 / 64 := by omega
  unfold utf8EncodeChar
  generalize c.val.toNat = m at hlt
  generalize d.val.toNat = n at hlt hd
  simp only [hdigits]
  split_ifs <;>
    simp (disch := omega) only [List.cons_append, List.nil_append, cons_lt_cons_iff] <;> omega

theorem flatMap_lt_flatMap {cs ds : List Char} (h : cs < ds) :
    cs.flatMap utf8EncodeChar < ds.flatMap utf8EncodeChar := by
  induction h with
  | @nil d ds =>
    have hd : utf8EncodeChar d ≠ [] := by
      rw [← List.length_pos_iff, String.length_utf8EncodeChar]
      exact d.utf8Size_pos
    obtain ⟨x, xs, hx⟩ := List.exists_cons_of_ne_nil hd
    rw [List.flatMap_cons, hx]
    exact List.nil_lt_cons x _
  | rel h => exact encoded_lt_encoded h _ _
  | cons _ ih => exact List.append_left_lt ih

theorem bytes_lt_bytes {s t : String} (h : s < t) : bytes s < bytes t := by
  rw [bytes_eq, bytes_eq]
  exact flatMap_lt_flatMap h

/-- **Texts are in the order of their bytes.** -/
theorem bytes_lt_iff {s t : String} : bytes s < bytes t ↔ s < t := by
  refine ⟨fun h => ?_, bytes_lt_bytes⟩
  by_contra hnot
  -- otherwise the second text is the first one or comes before it
  rcases String.le_total s t with hle | hle
  · obtain rfl := String.le_antisymm hle (String.not_lt.1 hnot)
    exact List.lt_irrefl _ h
  · by_cases hts : t < s
    · exact List.lt_asymm h (bytes_lt_bytes hts)
    · obtain rfl := String.le_antisymm hle (String.not_lt.1 hts)
      exact List.lt_irrefl _ h

end Text

end JellyViews
