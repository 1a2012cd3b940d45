/-
**Lines.**

A line ends with a line feed, or with a carriage return and a line feed; a text that ends with a
line feed has no further line behind it.

Main definitions:

* `Text.lines` — the lines of a text, without their ends;
* `Text.indented` — a text with something in front of its lines.
-/

import JellyViews.Text.Blank
import JellyViews.Text.Occurrence

set_option relaxedAutoImplicit false
set_option autoImplicit false

namespace JellyViews

namespace Text

/-- The line without a carriage return at its end. -/
def withoutReturn (line : String) : String :=
  match line.toList.reverse with
  | '\r' :: cs => String.ofList cs.reverse
  | _ => line

/-- The lines of a text: what follows the last line feed is a line only if it is not empty, and is
taken as it is. -/
def linesOf : List String → List String
  | [] => []
  | [last] => if last = "" then [] else [last]
  | line :: rest => withoutReturn line :: linesOf rest

/-- The lines of a text. -/
def lines (s : String) : List String := linesOf (split "\n" s)

/-- A line behind a lead, unless the line is blank and blank lines are left alone. -/
def indentedLine (lead : String) (blanksToo : Bool) (line : String) : String :=
  if blanksToo || trimStart line != "" then lead ++ line else line

/-- The text with a lead in front of its lines: of the first one only if `firstToo` holds, of the
blank ones behind it only if `blanksToo` holds. -/
def indented (lead : String) (firstToo blanksToo : Bool) (s : String) : String :=
  match lines s with
  | [] => ""
  | first :: rest =>
    String.intercalate "\n" ((if firstToo then lead ++ first else first) ::
      rest.map (indentedLine lead blanksToo))

end Text

end JellyViews
