/-
**The grammar of terms.**

A term is made of conditions, connected by `and` and `or`.  A condition is a comparison, a question
whether one value is a part of another, or a term in parentheses.  The sides of a comparison are
texts, joined texts, or sums of products, with filters behind them.  Alternatives are tried in the
order in which they are written here, and the first that fits is taken.

Parentheses around a term take away a negation that stands at its front.

A term nests no deeper than it is long, so the readers count the depth that is left down from the
length of the text.

Main definitions:

* `Template.Grammar.call`, `Template.Grammar.filter` — functions and filters with arguments;
* `Template.Grammar.chain` — sums and products;
* `Template.Grammar.term` — a term;
* `Template.Grammar.application` — the filter of a section.
-/

import JellyViews.OrderedMap
import JellyViews.Template.Lexeme

set_option relaxedAutoImplicit false
set_option autoImplicit false

namespace JellyViews

namespace Template

namespace Grammar

open Lexeme Text Text.Reader

section

variable (value : Reader Term)

/-! ### Calls, filters and tests -/

/-- A named argument. -/
def argument : Reader (String × Term) := do
  let key ← name
  symbol "="
  let t ← value
  return (key, t)

/-- Named arguments with commas between them; one more comma may follow. -/
def argumentList : Reader (List (String × Term)) := do
  let args ← separated (symbol ",") (argument value)
  let _ ← maybe (symbol ",")
  return args

/-- Arguments in parentheses; of a repeated name the last one counts. -/
def arguments : Reader (List (String × Term)) := do
  symbol "("
  let args ← maybe (argumentList value)
  symbol ")"
  return (OrderedMap.ofList (args.getD [])).entries

/-- A function and its arguments. -/
def call : Reader (String × List (String × Term)) := do
  let f ← name
  let args ← arguments value
  return (f, args)

/-- A function that another template would have to define. -/
def foreignCall : Reader Term := do
  let space ← name
  symbol "::"
  let (f, _) ← call value
  return .foreign space f

/-- A filter, with arguments or without. -/
def filterName : Reader (String × List (String × Term)) :=
  call value <|> (do let f ← name; return (f, []))

/-- A filter behind a bar. -/
def filter : Reader (String × List (String × Term)) := do
  symbol "|"
  filterName value

/-- The term with filters behind it. -/
def withFilters (p : Reader Term) : Reader Term := do
  let t ← p
  let fs ← many (filter value)
  return fs.foldl (fun acc f => .filtered acc f.1 f.2) t

/-- The arguments of a test, at least one. -/
def testArguments : Reader (List Term) := do
  symbol "("
  let args ← separated (symbol ",") value
  symbol ")"
  return args

/-- The test of a variable; `negation` reads what may stand before the name of the test. -/
def test (opposite : Bool) (negation : Reader Unit) : Reader Term := do
  let v ← path
  symbol "is"
  negation
  let n ← name
  let args ← maybe (testArguments value)
  return .tested v opposite n (args.getD [])

/-! ### Joined texts -/

/-- A part of joined texts. -/
def joinedPart : Reader Term :=
  (do let c ← call value; return .call c.1 c.2) <|>
  number <|>
  (do let s ← quotation; return .text s) <|>
  (do let v ← path; return .variable v)

/-- Puts a part in front of others; two texts become one. -/
def consPart : Term → List Term → List Term
  | .text s, .text t :: rest => .text (s ++ t) :: rest
  | t, rest => t :: rest

/-- The join of parts; a join of texts is a text. -/
def joinOf (parts : List Term) : Term :=
  match parts.foldr consPart [] with
  | [.text s] => .text s
  | ts => .joined ts

/-- At least two parts with tildes between them. -/
def joinedTexts : Reader Term := do
  let first ← joinedPart value
  symbol "~"
  let rest ← separated (symbol "~") (joinedPart value)
  return joinOf (first :: rest)

/-- Joined texts or a text, with filters. -/
def textTerm : Reader Term :=
  withFilters value (joinedTexts value <|> (do let s ← quotation; return .text s))

/-! ### Sums and products -/

/-- An operator of arithmetic. -/
def operator : Reader Operator :=
  (do symbol "+"; return .plus) <|>
  (do symbol "-"; return .minus) <|>
  (do symbol "*"; return .times) <|>
  (do symbol "/"; return .divided) <|>
  (do symbol "%"; return .modulo)

/-- Whether the operator stands between the terms of a sum, and not between factors. -/
def isAdditive : Operator → Bool
  | .plus => true
  | .minus => true
  | _ => false

/-- Adds a product to a sum. -/
def addTo : Option (Term × Operator) → Term → Term
  | some (sum, op), product => .arithmetic op sum product
  | none, product => product

/-- Sets out a chain of operands: products bind closer than sums, and both group to the left. -/
def grouped (sum : Option (Term × Operator)) (product : Term) : List (Operator × Term) → Term
  | [] => addTo sum product
  | (op, t) :: r =>
    if isAdditive op then grouped (some (addTo sum product, op)) t r
    else grouped sum (.arithmetic op product t) r

/-- The operands behind the first one, with the operators before them. -/
def operands (operand : Reader Term) : Reader (List (Operator × Term)) :=
  many (do let op ← operator; let t ← operand; return (op, t))

/-- Operands with operators between them. -/
def chain (operand : Reader Term) : Reader Term := do
  let first ← operand
  let rest ← operands operand
  return grouped none first rest

/-- A value in a sum. -/
def plainValue : Reader Term :=
  truth <|>
  test value true (symbol "not") <|>
  test value false (return ()) <|>
  foreignCall value <|>
  (do let c ← call value; return .call c.1 c.2) <|>
  (do let v ← path; return .variable v) <|>
  number

/-- A sum of values and of sums in parentheses. -/
def sum (inner : Reader Term) : Reader Term :=
  chain ((do symbol "("; let t ← inner; symbol ")"; return t) <|> plainValue value)

/-! ### Conditions -/

/-- A sum with filters. -/
def filteredSum (inner : Reader Term) : Reader Term := withFilters value (sum value inner)

/-- A side of a comparison. -/
def side (inner : Reader Term) : Reader Term :=
  textTerm value <|> chain (filteredSum value inner)

/-- The sign of a comparison. -/
def relation : Reader Relation :=
  (do symbol "<="; return .atMost) <|>
  (do symbol ">="; return .atLeast) <|>
  (do symbol ">"; return .greater) <|>
  (do symbol "<"; return .less) <|>
  (do symbol "=="; return .equal) <|>
  (do symbol "!="; return .different)

/-- The comparison of a term with what follows, or the term alone. -/
def comparisonFrom (inner : Reader Term) (l : Term) : Reader Term := do
  let r ← maybe (do let rel ← relation; let t ← side value inner; return (rel, t))
  match r with
  | some (rel, t) => return .compared rel l t
  | none => return l

/-- Items between brackets, with commas between them; one more comma may follow. -/
def items (item : Reader Term) : Reader (List Term) := do
  symbol "["
  let ts ← maybe (do
    let ts ← separated (symbol ",") item
    let _ ← maybe (symbol ",")
    return ts)
  symbol "]"
  return ts.getD []

/-- An array with filters. -/
def arrayTerm (item : Reader Term) : Reader Term :=
  withFilters value (do let ts ← items item; return .array ts)

/-- What has parts: a text, an array or a variable. -/
def container (item : Reader Term) : Reader Term :=
  textTerm value <|> arrayTerm value item <|> (do let v ← path; return .variable v)

/-- The question whether a term is a part of what follows. -/
def membershipFrom (item : Reader Term) (l : Term) : Reader Term := do
  let absent ← maybe (word "not")
  symbol "in"
  let r ← container value item
  return .member absent.isSome l r

/-- A question or a comparison that begins with a text. -/
def textCondition (item inner : Reader Term) : Reader Term := do
  let l ← textTerm value
  membershipFrom value item l <|> comparisonFrom value inner l

/-- A question or a comparison that begins with a sum. -/
def sumCondition (item inner : Reader Term) : Reader Term := do
  let l ← filteredSum value inner
  membershipFrom value item l <|> (do
    let rest ← operands (filteredSum value inner)
    comparisonFrom value inner (grouped none l rest))

/-- A question or a comparison, possibly negated. -/
def plainCondition (item inner : Reader Term) : Reader Term := do
  let negative ← maybe (word "not")
  let t ← textCondition value item inner <|> sumCondition value item inner
  return if negative.isSome then .negated t else t

/-- A word between two conditions. -/
def connective : Reader Connective :=
  (do word "or"; return .either) <|> (do word "and"; return .both)

/-- Adds a condition to a row of alternatives. -/
def alternativeTo : Option Term → Term → Term
  | some l, r => .connected .either l r
  | none, r => r

/-- Sets out a chain of conditions: `and` binds closer than `or`, and both group to the left. -/
def groupedConditions (either : Option Term) (both : Term) : List (Connective × Term) → Term
  | [] => alternativeTo either both
  | (.both, t) :: r => groupedConditions either (.connected .both both t) r
  | (.either, t) :: r => groupedConditions (some (alternativeTo either both)) t r

/-- Conditions with words between them. -/
def conditions (item : Reader Term) : Reader Term := do
  let first ← item
  let rest ← many (do let c ← connective; let t ← item; return (c, t))
  return groupedConditions none first rest

end

/-! ### Nesting -/

/-- Which of the recursive parts of the grammar is meant. -/
inductive Part where
  /-- What stands in parentheses inside of a sum. -/
  | sum
  /-- A condition. -/
  | condition
  /-- Conditions with words between them. -/
  | conditions
  /-- The value of an argument or of an output tag. -/
  | value
deriving DecidableEq

/-- Reads a part that nests at most so deep. -/
def partAt : Nat → Part → Reader Term
  | 0, _, _ => none
  | n + 1, part, s =>
    let value : Reader Term := fun t => partAt n .value t
    let item : Reader Term := fun t => partAt n .condition t
    let row : Reader Term := fun t => partAt n .conditions t
    let inner : Reader Term := fun t => partAt n .sum t
    match part with
    | .sum => sum value inner s
    | .condition =>
      (plainCondition value item inner <|>
        (do symbol "("; let t ← row; symbol ")"; return t.withoutNegation)) s
    | .conditions => conditions item s
    | .value => (conditions item <|> arrayTerm value item) s

/-- The value of an output tag; each level of nesting passes through at most three parts. -/
def term : Reader Term := fun s => partAt (3 * s.length + 3) .value s

/-- The filter of a section. -/
def application : Reader (String × List (String × Term)) := filterName term

end Grammar

end Template

end JellyViews
