/-
**The number of terminal columns of a text.**

A text is as wide as its characters together, except where several of them are shown as one sign:
a picture and what selects, colours or joins it, two letters that make a flag, and the ligatures of
a few scripts.  A sequence is known by its last character, so a text is measured from its end: what
is behind a character decides how many columns the character adds.

Main definitions:

* `Text.Trail` — what is behind a character, as far as it matters for the character;
* `Text.Trail.step` — the columns that a character adds, and what it leaves for the one before it;
* `Text.columns` — the width of a text.
-/

import JellyViews.Text.WidthClass

set_option relaxedAutoImplicit false
set_option autoImplicit false

namespace JellyViews

namespace Text

/-! ### What is behind a character -/

/-- The sequence that begins behind a character, and to which the character may belong. -/
inductive Sequel where
  /-- No sequence that goes on. -/
  | nothing
  | lineFeed
  | skinTone
  /-- One letter of a flag. -/
  | flagLetter
  /-- Several letters of flags. -/
  | flagLetters
  /-- A picture. -/
  | emoji
  /-- A joiner and a picture. -/
  | joined
  /-- A key cap, a joiner and a picture. -/
  | joinedKey
  /-- One letter of a flag, a joiner and a picture. -/
  | joinedLetter
  /-- An even number of letters, a joiner and a picture. -/
  | joinedEven
  /-- An odd number of letters, three at least, a joiner and a picture. -/
  | joinedOdd
  /-- So many letters of a tagged flag and its end, a joiner and a picture. -/
  | tagLetters (n : Nat)
  /-- So many digits in front of letters of a tagged flag, its end, a joiner and a picture. -/
  | tagDigits (n : Nat)
  /-- An Arabic alef. -/
  | alef
  /-- The Hebrew lamed, possibly behind a joiner. -/
  | lamed (joiner : Bool)
  /-- The Buginese ya, possibly behind a joiner. -/
  | ya (joiner : Bool)
  /-- The Buginese vowel i, a joiner and ya. -/
  | vowelYa
  /-- A Tifinagh consonant, possibly behind a joiner. -/
  | tifinagh (joiner : Bool)
  /-- The joiner of Tifinagh consonants and a consonant. -/
  | joinedTifinagh
  /-- A Lisu tone letter that can be the second of two. -/
  | secondTone
  /-- The Old Turkic i, possibly behind a joiner. -/
  | turkicI (joiner : Bool)
  /-- A Khmer letter that can stand below another. -/
  | khmerLetter
deriving DecidableEq

namespace Sequel

/-- Whether the sequence is the end of a ligature. -/
def isLigature : Sequel → Bool
  | alef | lamed _ | ya _ | vowelYa | tifinagh _ | joinedTifinagh => true
  | secondTone | turkicI _ | khmerLetter => true
  | _ => false

/-- Whether the sequence is a joiner and a picture, with or without a key cap in front. -/
def isJoined : Sequel → Bool
  | joined | joinedKey => true
  | _ => false

/-- The sequence with a joiner in front of it. -/
def withJoiner : Sequel → Sequel
  | lamed _ => lamed true
  | ya _ => ya true
  | tifinagh _ => tifinagh true
  | turkicI _ => turkicI true
  | s => s

end Sequel

/-- What is behind a character: the sequence, and the looks for which selectors in front of the
sequence ask. -/
structure Trail where
  sequel : Sequel
  asPicture : Bool
  asText : Bool
deriving DecidableEq

namespace Trail

/-- Nothing that matters. -/
def nothing : Trail := ⟨.nothing, false, false⟩

/-- A sequence without selectors. -/
def of (s : Sequel) : Trail := ⟨s, false, false⟩

/-- What a selector for the look as a picture leaves. -/
def selectPicture (t : Trail) : Trail :=
  if t.sequel.isLigature || t.sequel.isJoined then { t with asPicture := true }
  else ⟨.nothing, true, false⟩

/-- What a selector for the look as text leaves. -/
def selectText (t : Trail) : Trail :=
  if t.sequel.isLigature then { t with asText := true } else ⟨.nothing, false, true⟩

/-! ### Sequences -/

/-- What a character by itself adds and leaves. -/
def alone (c : Char) : Int × Trail :=
  match widthClass c with
  | .columns n => (n, nothing)
  | .lineFeed => (1, of .lineFeed)
  | .emoji => (2, of .emoji)
  | .skinTone => (2, of .skinTone)
  | .flagLetter => (1, of .flagLetter)
  | .pictureSelector => (0, ⟨.nothing, true, false⟩)
  | .textSelector => (0, ⟨.nothing, false, true⟩)
  | .alef => (1, of .alef)
  | .lamed => (1, of (.lamed false))
  | .khmerLetter => (1, of .khmerLetter)
  | .ya => (1, of (.ya false))
  | .tifinagh => (1, of (.tifinagh false))
  | .secondTone => (1, of .secondTone)
  | .turkicI => (1, of (.turkicI false))

/-- Whether the character is an Arabic lam. -/
def isLam (c : Char) : Bool :=
  c.toNat == 0x644 || (0x6B5 ≤ c.toNat && c.toNat ≤ 0x6B8) || c.toNat == 0x76A ||
    c.toNat == 0x8A6 || c.toNat == 0x8C7

/-- What a character adds and leaves in front of the end of a ligature; `none` if it is no part of
the ligature. -/
def inLigature (c : Char) : Sequel → Option (Int × Trail)
  | .alef =>
    if isLam c then some (0, nothing)
    else if isInvisibleJoin c then some (0, of .alef)
    else none
  | .lamed true => if c = 'א' then some (0, nothing) else none
  | .khmerLetter => if c = '\u17D2' then some (-1, nothing) else none
  | .ya true => if c = '\u1A17' then some (0, of .vowelYa) else none
  | .vowelYa => if c = '\u1A15' then some (0, nothing) else none
  | .tifinagh joiner =>
    if c = '\u2D7F' then some (1, of .joinedTifinagh)
    else if joiner && isTifinagh c then some (0, nothing)
    else none
  | .joinedTifinagh => if isTifinagh c then some (-1, nothing) else none
  | .secondTone =>
    if 0xA4F8 ≤ c.toNat ∧ c.toNat ≤ 0xA4FB then some (0, nothing) else none
  | .turkicI true => if c = '𐰲' then some (0, nothing) else none
  | _ => none

/-- Whether the character is a letter in the tags of a flag. -/
def isTagLetter (c : Char) : Bool := 0xE0061 ≤ c.toNat && c.toNat ≤ 0xE007A

/-- Whether the character is a digit in the tags of a flag. -/
def isTagDigit (c : Char) : Bool := 0xE0030 ≤ c.toNat && c.toNat ≤ 0xE0039

/-- What a character adds and leaves in front of a joiner and a picture. -/
def inJoined (c : Char) : Option (Int × Trail) :=
  if c = '\u20E3' then some (0, of .joinedKey)
  else if isFlagLetter c then some (1, of .joinedLetter)
  else if isSkinTone c then some (0, of .skinTone)
  else if c.toNat = 0xE007F then some (0, of (.tagLetters 0))
  else if widthClass c = .emoji then some (0, of .emoji)
  else none

/-- What a character adds and leaves in front of letters of a tagged flag, three to six of which
name a region behind the black flag. -/
def inTagLetters (n : Nat) (c : Char) : Option (Int × Trail) :=
  if n < 6 ∧ isTagLetter c then some (0, of (.tagLetters (n + 1)))
  else if n < 5 ∧ isTagDigit c then some (0, of (.tagDigits 1))
  else if 3 ≤ n ∧ c = '🏴' then some (0, of .emoji)
  else none

/-- What a character adds and leaves in front of digits of a tagged flag, of which there are
three. -/
def inTagDigits (n : Nat) (c : Char) : Option (Int × Trail) :=
  if n < 3 ∧ isTagDigit c then some (0, of (.tagDigits (n + 1)))
  else if n = 3 ∧ c = '🏴' then some (0, of .emoji)
  else none

/-- What a character adds and leaves in front of a picture or its parts; `none` if it is no part of
the picture. -/
def inPicture (c : Char) : Sequel → Option (Int × Trail)
  | .skinTone =>
    if takesTone c then some (0, of .emoji)
    else if c = '\u200D' then some (0, of .joined)
    else none
  | .flagLetter => if isFlagLetter c then some (1, of .flagLetters) else none
  | .flagLetters =>
    if isFlagLetter c then some (1, of .flagLetters)
    else if c = '\u200D' then some (0, of .joined)
    else none
  | .emoji => if c = '\u200D' then some (0, of .joined) else none
  | .joined => inJoined c
  | .joinedLetter => if isFlagLetter c then some (-1, of .joinedEven) else none
  | .joinedOdd =>
    if isFlagLetter c then some (-1, of .joinedEven)
    else if c = '\u200D' then some (0, of .joined)
    else none
  | .joinedEven =>
    if isFlagLetter c then some (3, of .joinedOdd)
    else if c = '\u200D' then some (0, of .joined)
    else none
  | .tagLetters n => inTagLetters n c
  | .tagDigits n => inTagDigits n c
  | _ => none

/-! ### Characters -/

/-- What a character adds and leaves in front of a sequence. -/
def joinSequel (c : Char) (s : Sequel) : Int × Trail :=
  if s.isLigature && s != .alef && c == '\u200D' then (0, of s.withJoiner)
  else if s.isLigature && s != .alef && isInsideLigature c then (0, of s)
  else (inLigature c s <|> inPicture c s).getD (alone c)

/-- What a character adds and leaves where no picture is asked for. -/
def joinText (c : Char) (t : Trail) : Int × Trail :=
  if c = '\r' ∧ t = of .lineFeed then (0, nothing)
  else if c.toNat ≤ 0xA0 ∨ t = nothing then alone c
  else if c = '\uFE0F' then (0, t.selectPicture)
  else if c = '\uFE0E' then (0, t.selectText)
  else if t.asText && losesPicture c then (1, nothing)
  else joinSequel c t.sequel

/-- The columns that a character adds in front of a trail, and the trail that it leaves. -/
def step (c : Char) (t : Trail) : Int × Trail :=
  if t.asPicture then
    if takesSelector c then (if t.sequel.isJoined then 0 else 2, of .emoji)
    else joinText c (if t.sequel.isLigature then { t with asPicture := false } else nothing)
  else joinText c t

end Trail

/-! ### Texts -/

/-- Adds a character in front of measured ones. -/
def widen (c : Char) (measured : Int × Trail) : Int × Trail :=
  let (added, trail) := Trail.step c measured.2
  (measured.1 + added, trail)

/-- The columns of a text. -/
def columns (s : String) : Nat := (s.toList.foldr widen (0, Trail.nothing)).1.toNat

end Text

end JellyViews
