/-
**Tables in a frame.**

A table has a head and rows of as many cells.  Each column is as wide as its widest cell, with a
space on both sides; lines run around the table, between columns, and under the head.

Main definitions:

* `Command.Table`, `Command.Table.render` — a table and its text;
* `Command.Table.widths` — the widths of the columns.
-/

import JellyViews.Text.Columns

set_option relaxedAutoImplicit false
set_option autoImplicit false

namespace JellyViews

namespace Command

/-- A head and rows of cells. -/
structure Table where
  head : List String
  rows : List (List String)

namespace Table

/-- The larger widths of two rows. -/
def widen : List Nat → List String → List Nat
  | w :: ws, cell :: cells => max w (Text.columns cell) :: widen ws cells
  | ws, _ => ws

/-- The widths of the columns. -/
def widths (t : Table) : List Nat := t.rows.foldl widen (t.head.map Text.columns)

/-- So many copies of a text. -/
def copies (n : Nat) (s : String) : String := String.join (List.replicate n s)

/-- The cell with spaces up to a width. -/
def padded (width : Nat) (cell : String) : String :=
  cell ++ copies (width - Text.columns cell) " "

/-- A line of cells. -/
def cellLine (ws : List Nat) (cells : List String) : String :=
  "│ " ++ String.intercalate " │ " (List.zipWith padded ws cells) ++ " │\n"

/-- A drawn line: its left end, the mark between columns, and its right end. -/
def drawnLine (left middle right : String) (ws : List Nat) : String :=
  left ++ String.intercalate middle (ws.map fun w => copies (w + 2) "─") ++ right ++ "\n"

/-- The text of a table, line by line. -/
def render (t : Table) : String :=
  drawnLine "╭" "┬" "╮" t.widths ++ cellLine t.widths t.head ++
    drawnLine "├" "┼" "┤" t.widths ++
    String.join (t.rows.map (cellLine t.widths)) ++
    drawnLine "╰" "┴" "╯" t.widths

end Table

end Command

end JellyViews
