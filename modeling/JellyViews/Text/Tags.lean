/-
**Tags in a text.**

A tag goes from a less-than sign to the next greater-than sign; a comment goes to its end mark, if
that is on the same line.

Main definitions:

* `Text.withoutTags` — a text without its tags and comments;
* `Text.withoutGaps` — a text without the white space between two tags.
-/

import JellyViews.Text.Blank

set_option relaxedAutoImplicit false
set_option autoImplicit false

namespace JellyViews

namespace Text

/-- The number of characters up to the end of the first occurrence of a mark, unless a character of
the kind `stops` comes before it. -/
def lengthUpTo (mark : List Char) (stops : Char → Bool) : List Char → Option Nat
  | [] => none
  | c :: cs =>
    if mark.isPrefixOf (c :: cs) then some mark.length
    else if stops c then none
    else (lengthUpTo mark stops cs).map (· + 1)

/-- The length of the comment that begins here. -/
def commentLength? (cs : List Char) : Option Nat :=
  let opening := "<!--".toList
  if opening.isPrefixOf cs then
    (lengthUpTo "-->".toList (· == '\n') (cs.drop opening.length)).map (· + opening.length)
  else none

/-- The length of the tag that begins here. -/
def tagLength? : List Char → Option Nat
  | '<' :: cs => (lengthUpTo ['>'] (fun _ => false) cs).map (· + 1)
  | _ => none

/-- The characters outside of tags and comments; so many still belong to the last tag. -/
def outsideTags : Nat → List Char → List Char
  | _, [] => []
  | n + 1, _ :: cs => outsideTags n cs
  | 0, c :: cs =>
    match commentLength? (c :: cs) <|> tagLength? (c :: cs) with
    | some n => outsideTags (n - 1) cs
    | none => c :: outsideTags 0 cs

/-- The text without its tags and comments. -/
def withoutTags (s : String) : String := String.ofList (outsideTags 0 s.toList)

/-- The number of blanks before a less-than sign; none if something else follows them. -/
def gapLength (cs : List Char) : Nat :=
  match cs.dropWhile isBlank with
  | '<' :: _ => (cs.takeWhile isBlank).length
  | _ => 0

/-- The characters without the blanks between two tags; so many belong to the last gap. -/
def outsideGaps : Nat → List Char → List Char
  | _, [] => []
  | n + 1, _ :: cs => outsideGaps n cs
  | 0, c :: cs => c :: outsideGaps (if c = '>' then gapLength cs else 0) cs

/-- The text without the white space between two tags. -/
def withoutGaps (s : String) : String := String.ofList (outsideGaps 0 s.toList)

end Text

end JellyViews
