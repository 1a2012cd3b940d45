/-
**Occurrences of one text in another.**

Occurrences are found from left to right and do not overlap.  The empty text occurs before and
behind every character.

Main definitions:

* `Text.split` — the texts between the occurrences;
* `Text.replace` — a text with something else at every occurrence;
* `Text.occursIn`, `Text.begins`, `Text.ends` — whether a text occurs at all, or at an end;
* `Text.trimStartOf`, `Text.trimEndOf` — a text without the occurrences at one end.
-/

set_option relaxedAutoImplicit false
set_option autoImplicit false

namespace JellyViews

namespace Text

/-! ### Cutting at occurrences -/

/-- Puts a character in front of the first text. -/
def consFirst (c : Char) : List (List Char) → List (List Char)
  | [] => [[c]]
  | p :: ps => (c :: p) :: ps

/-- The texts between the occurrences of `mark`, a non-empty text; so many characters still belong
to the last occurrence. -/
def splitAfter (mark : List Char) : Nat → List Char → List (List Char)
  | _, [] => [[]]
  | n + 1, _ :: cs => splitAfter mark n cs
  | 0, c :: cs =>
    if mark.isPrefixOf (c :: cs) then [] :: splitAfter mark (mark.length - 1) cs
    else consFirst c (splitAfter mark 0 cs)

/-- The texts between the occurrences. -/
def splitChars (mark cs : List Char) : List (List Char) :=
  if mark = [] then [] :: cs.map (fun c => [c]) ++ [[]] else splitAfter mark 0 cs

/-- The texts between the occurrences of `mark`. -/
def split (mark s : String) : List String :=
  (splitChars mark.toList s.toList).map String.ofList

/-- The text with `new` in the place of every `old`. -/
def replace (old new s : String) : String := String.intercalate new (split old s)

/-! ### Whether a text occurs -/

/-- Whether the text begins with another. -/
def begins (part s : String) : Bool := part.toList.isPrefixOf s.toList

/-- Whether the text ends with another. -/
def ends (part s : String) : Bool := part.toList.reverse.isPrefixOf s.toList.reverse

/-- Whether the row occurs anywhere in the other one. -/
def occurs (part : List Char) : List Char → Bool
  | [] => part.isEmpty
  | c :: cs => part.isPrefixOf (c :: cs) || occurs part cs

/-- Whether a text occurs in another. -/
def occursIn (part s : String) : Bool := occurs part.toList s.toList

/-! ### Trimming occurrences -/

/-- The row without the occurrences at its start; `n` limits their number. -/
def dropLeading (part : List Char) : Nat → List Char → List Char
  | 0, cs => cs
  | n + 1, cs =>
    if part.isPrefixOf cs then dropLeading part n (cs.drop part.length) else cs

/-- The text without the occurrences of `part` at its start. -/
def trimStartOf (part s : String) : String :=
  String.ofList (dropLeading part.toList s.length s.toList)

/-- The text without the occurrences of `part` at its end. -/
def trimEndOf (part s : String) : String :=
  String.ofList (dropLeading part.toList.reverse s.length s.toList.reverse).reverse

end Text

end JellyViews
