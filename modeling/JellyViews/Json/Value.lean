/-
**Data values and their texts.**

A value is null, a truth value, a number, a text, an array or an object.  It has two texts: a
compact one on a single line, and a laid-out one with two spaces per level and one item per line.

Main definitions:

* `Json` — the values;
* `Json.escaped` — a text between quotes;
* `Json.compact`, `Json.laidOut` — the two texts of a value.
-/

import JellyViews.Decimal.Layout

set_option relaxedAutoImplicit false
set_option autoImplicit false

namespace JellyViews

/-- A data value.  The fields of an object keep their order. -/
inductive Json where
  | null
  | bool (b : Bool)
  | int (n : Int)
  | float (x : Float)
  | string (s : String)
  | array (items : List Json)
  | object (fields : List (String × Json))
deriving BEq

namespace Json

/-! ### Texts between quotes -/

/-- A hexadecimal digit. -/
def hexDigit (n : Nat) : Char := Nat.digitChar (n % 16)

/-- The characters that stand for `c` between quotes. -/
def escapedChar (c : Char) : List Char :=
  if c = '"' then ['\\', '"']
  else if c = '\\' then ['\\', '\\']
  else if c = '\x08' then ['\\', 'b']
  else if c = '\x0c' then ['\\', 'f']
  else if c = '\n' then ['\\', 'n']
  else if c = '\r' then ['\\', 'r']
  else if c = '\t' then ['\\', 't']
  else if c.toNat < 32 then ['\\', 'u', '0', '0', hexDigit (c.toNat / 16), hexDigit c.toNat]
  else [c]

/-- The text between quotes; control characters, quotes and backslashes are escaped. -/
def escaped (s : String) : String := String.ofList ('"' :: s.toList.flatMap escapedChar ++ ['"'])

/-- The text of a truth value. -/
def boolText (b : Bool) : String := if b then "true" else "false"

/-! ### The text on one line -/

mutual

/-- The text without any white space between its parts. -/
def compact : Json → String
  | null => "null"
  | bool b => boolText b
  | int n => Decimal.ofInt n
  | float x => Decimal.dataLayout.write x
  | string s => escaped s
  | array items => "[" ++ String.intercalate "," (compactItems items) ++ "]"
  | object fields => "\x7b" ++ String.intercalate "," (compactFields fields) ++ "\x7d"

/-- The texts of the items of an array. -/
def compactItems : List Json → List String
  | [] => []
  | v :: vs => compact v :: compactItems vs

/-- The texts of the fields of an object. -/
def compactFields : List (String × Json) → List String
  | [] => []
  | (k, v) :: fs => (escaped k ++ ":" ++ compact v) :: compactFields fs

end

/-! ### The text on several lines -/

/-- The spaces at the beginning of a line. -/
def indent (level : Nat) : String := String.ofList (List.replicate (2 * level) ' ')

/-- Lines between brackets, each one level deeper than the brackets; `[]` for no lines. -/
def enclosed (opening closing : String) (level : Nat) (lines : List String) : String :=
  if lines = [] then opening ++ closing
  else
    opening ++ "\n" ++ String.intercalate ",\n" (lines.map (indent (level + 1) ++ ·)) ++ "\n" ++
      indent level ++ closing

mutual

/-- The text with one item per line, for a value that starts at the level. -/
def laidOutAt (level : Nat) : Json → String
  | null => "null"
  | bool b => boolText b
  | int n => Decimal.ofInt n
  | float x => Decimal.dataLayout.write x
  | string s => escaped s
  | array items => enclosed "[" "]" level (laidOutItems (level + 1) items)
  | object fields => enclosed "\x7b" "\x7d" level (laidOutFields (level + 1) fields)

/-- The texts of the items of an array. -/
def laidOutItems (level : Nat) : List Json → List String
  | [] => []
  | v :: vs => laidOutAt level v :: laidOutItems level vs

/-- The texts of the fields of an object. -/
def laidOutFields (level : Nat) : List (String × Json) → List String
  | [] => []
  | (k, v) :: fs => (escaped k ++ ": " ++ laidOutAt level v) :: laidOutFields level fs

end

/-- The text with one item per line. -/
def laidOut (v : Json) : String := laidOutAt 0 v

end Json

end JellyViews
