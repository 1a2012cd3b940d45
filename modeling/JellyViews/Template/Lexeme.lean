/-
**The smallest parts of a tag.**

White space may stand before each of them, but not inside of a name, a path or a number.

Main definitions:

* `Template.Lexeme.name`, `Template.Lexeme.path` — names, and paths of variables;
* `Template.Lexeme.quotation`, `Template.Lexeme.number`, `Template.Lexeme.truth` — plain values;
* `Template.Lexeme.symbol`, `Template.Lexeme.word` — what stands between them.
-/

import JellyViews.Decimal.Layout
import JellyViews.Naming
import JellyViews.Template.Term
import JellyViews.Text.Reader

set_option relaxedAutoImplicit false
set_option autoImplicit false

namespace JellyViews

namespace Template

namespace Lexeme

open Text Text.Reader

/-! ### Symbols and words -/

/-- The white space between the parts of a tag. -/
def isSpace (c : Char) : Bool := c == ' ' || c == '\t' || c == '\r' || c == '\n'

/-- A part with white space before it. -/
def spaced {α : Type} (p : Reader α) : Reader α := do
  let _ ← run isSpace
  p

/-- A symbol with white space before it. -/
def symbol (s : String) : Reader Unit := spaced (exactly s.toList)

/-- A word and the white space that ends it. -/
def word (s : String) : Reader Unit := spaced do
  exactly s.toList
  let _ ← satisfying isSpace

/-! ### Texts between quotes -/

/-- The characters between two quotes of one kind; there is no way to write that quote inside. -/
def quotedWith (quote : Char) : Reader (List Char) := do
  let _ ← satisfying (· == quote)
  let cs ← run (· != quote)
  let _ ← satisfying (· == quote)
  return cs

/-- The characters between double quotes, single quotes or backquotes. -/
def quotedChars : Reader (List Char) :=
  quotedWith '"' <|> quotedWith '\'' <|> quotedWith '\x60'

/-- A text between quotes. -/
def quotation : Reader String := spaced (return String.ofList (← quotedChars))

/-! ### Numbers -/

/-- A zero, or digits that start with none. -/
def wholeDigits : Reader (List Char) :=
  (do let c ← satisfying (· == '0'); return [c]) <|>
  (do
    let c ← satisfying Char.isDigit
    let cs ← run Char.isDigit
    return c :: cs)

/-- A sign and digits. -/
def signedDigits : Reader (List Char) := do
  let sign ← maybe (satisfying (· == '-'))
  let ds ← wholeDigits
  return sign.toList ++ ds

/-- Whether an integer fits into 64 bits with a sign. -/
def fitsWord (n : Int) : Bool := decide (-0x8000000000000000 ≤ n ∧ n < 0x8000000000000000)

/-- The integer of a sign and digits. -/
def integerOf? (cs : List Char) : Option Int :=
  let (negative, ds) := Decimal.splitSign cs
  (Decimal.natOf? 10 ds).map fun n => if negative then -(n : Int) else (n : Int)

/-- An integer of at most 64 bits. -/
def integer : Reader Term := spaced do
  let cs ← signedDigits
  match integerOf? cs with
  | some n => if fitsWord n then return .int n else fail
  | none => fail

/-- Digits with a point among them. -/
def fraction : Reader Term := spaced do
  let cs ← signedDigits
  let _ ← exactly ['.']
  let d ← satisfying Char.isDigit
  let ds ← run Char.isDigit
  match Decimal.read? (cs ++ '.' :: d :: ds) with
  | some x => return .float x
  | none => fail

/-- A number. -/
def number : Reader Term := fraction <|> integer

/-- A truth value; it ends with its last letter, whatever follows. -/
def truth : Reader Term := spaced
  ((do exactly "true".toList; return .bool true) <|>
   (do exactly "false".toList; return .bool false) <|>
   (do exactly "True".toList; return .bool true) <|>
   (do exactly "False".toList; return .bool false))

/-! ### Names and paths -/

/-- A letter or underscore, and then letters, digits and underscores. -/
def nameChars : Reader (List Char) := do
  let c ← satisfying Naming.isIdentifierStart
  let cs ← run Naming.isIdentifierChar
  return c :: cs

/-- The name of a function, a filter, a test or an argument. -/
def name : Reader String := spaced (return String.ofList (← nameChars))

/-- A dot and the name of a part. -/
def dottedPart : Reader (List Char) := do
  let _ ← exactly ['.']
  let c ← satisfying Naming.isIdentifierChar
  let cs ← run Naming.isIdentifierChar
  return '.' :: c :: cs

/-- A text with its quotes. -/
def quotedPart (quote : Char) : Reader (List Char) := do
  let cs ← quotedWith quote
  return quote :: cs ++ [quote]

/-- What may stand between brackets: an integer, a text, or a path. -/
def index (inner : Reader (List Char)) : Reader (List Char) :=
  signedDigits <|> quotedPart '"' <|> quotedPart '\'' <|> quotedPart '\x60' <|> inner

/-- Brackets and what they enclose. -/
def bracketedPart (inner : Reader (List Char)) : Reader (List Char) := do
  let _ ← exactly ['[']
  let cs ← index inner
  let _ ← exactly [']']
  return '[' :: cs ++ [']']

/-- The characters of a path whose brackets nest at most so deep. -/
def pathChars : Nat → Reader (List Char)
  | 0 => fail
  | n + 1 => do
    let cs ← nameChars
    let parts ← many (dottedPart <|> bracketedPart (pathChars n))
    return cs ++ parts.flatten

/-- The path of a variable: a name, and parts of it behind dots and in brackets. -/
def path : Reader String := spaced (return String.ofList (← fun s => pathChars (s.length + 1) s))

end Lexeme

end Template

end JellyViews
