/-
**Unified diffs.**

A unified diff shows the changed lines of two texts with three lines around them.  Changes that are
close to each other share a hunk, whose header names the lines it covers.

Main definitions:

* `Diff.hunks` — the steps of a script, grouped with their context;
* `Diff.unified` — the unified diff of two texts.
-/

import JellyViews.Decimal.Layout
import JellyViews.Diff.Slide

set_option relaxedAutoImplicit false
set_option autoImplicit false

namespace JellyViews

namespace Diff

/-! ### Hunks -/

/-- The number of unchanged lines around a change. -/
def context : Nat := 3

/-- Keeps only the last `n` lines of kept lines at the beginning of a script. -/
def clipFirst (n : Nat) : List Edit → List Edit
  | .equal old new size :: es =>
    .equal (old + (size - n)) (new + (size - n)) (size - (size - n)) :: es
  | es => es

/-- Keeps only the first `n` lines of kept lines at the end of a script. -/
def clipLast (n : Nat) : List Edit → List Edit
  | [.equal old new size] => [.equal old new (size - (size - n))]
  | e :: es => e :: clipLast n es
  | [] => []

/-- Whether a group has no change. -/
def isQuiet : List Edit → Bool
  | [] => true
  | [e] => e.isEqual
  | _ => false

/-- Divides a script where more than `2 n` lines are kept; `group` is the group so far. -/
def divide (n : Nat) (group : List Edit) : List Edit → List (List Edit)
  | [] => if isQuiet group then [] else [group]
  | .equal old new size :: es =>
    if 2 * n < size then
      (group ++ [.equal old new n]) ::
        divide n [.equal (old + (size - n)) (new + (size - n)) n] es
    else divide n (group ++ [.equal old new size]) es
  | e :: es => divide n (group ++ [e]) es

/-- The hunks of a script. -/
def hunks (es : List Edit) : List (List Edit) :=
  divide context [] (clipLast context (clipFirst context es))

/-! ### Headers -/

/-- Line numbers as a header shows them: the first line and how many there are, which is left out
for one line; for no lines, the line before. -/
def spanText (first last : Nat) : String :=
  let n := last - first
  if n = 1 then Decimal.digitsOf (first + 1)
  else
    (if n = 0 then Decimal.digitsOf first else Decimal.digitsOf (first + 1)) ++ "," ++
      Decimal.digitsOf n

/-- The header of a hunk. -/
def header (hunk : List Edit) : String :=
  match hunk.head?, hunk.getLast? with
  | some a, some z =>
    "@@ -" ++ spanText a.oldSpan.first z.oldSpan.last ++ " +" ++
      spanText a.newSpan.first z.newSpan.last ++ " @@\n"
  | _, _ => ""

/-! ### Lines of a diff -/

/-- Whether a line ends with a break. -/
def endsWithBreak (line : String) : Bool :=
  match line.toList.getLast? with
  | some c => c == '\n' || c == '\r'
  | none => false

/-- A line behind its sign; a line without a break gets one and a remark. -/
def lineText (sign line : String) : String :=
  sign ++ line ++ (if endsWithBreak line then "" else "\n\\ No newline at end of file\n")

/-- The lines of a span behind a sign. -/
def spanLines (sign : String) (lines : Array String) (s : Span) : String :=
  String.join ((lines.extract s.first s.last).toList.map (lineText sign))

/-- The lines of a step. -/
def editText (lines : Pair) : Edit → String
  | .equal old new size => spanLines " " lines.old (Edit.equal old new size).oldSpan
  | e => spanLines "-" lines.old e.oldSpan ++ spanLines "+" lines.new e.newSpan

/-- The text of a hunk. -/
def hunkText (lines : Pair) (hunk : List Edit) : String :=
  header hunk ++ String.join (hunk.map (editText lines))

/-- The unified diff of two texts under two names; nothing for equal texts. -/
def unified (oldName newName old new : String) : String :=
  let lines : Pair := ⟨(linesOf old).toArray, (linesOf new).toArray⟩
  match hunks (merged (tidy lines (script lines))) with
  | [] => ""
  | h :: hs =>
    "--- " ++ oldName ++ "\n+++ " ++ newName ++ "\n" ++
      String.join ((h :: hs).map (hunkText lines))

end Diff

end JellyViews
