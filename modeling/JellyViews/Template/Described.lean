/-
**Terms in reports.**

A report can show a term by its structure: the kind of its value, whether it is negated, and its
filters.

Main definitions:

* `Template.Term.described` — the text of a term's structure.
-/

import JellyViews.Decimal.Layout
import JellyViews.Template.Term
import JellyViews.Text.Quoted

set_option relaxedAutoImplicit false
set_option autoImplicit false

namespace JellyViews

namespace Template

open Text

/-! ### Records -/

/-- A record with named fields. -/
def record (name : String) (fields : List (String × String)) : String :=
  name ++ " \x7b " ++ String.intercalate ", " (fields.map fun f => f.1 ++ ": " ++ f.2) ++ " \x7d"

/-- A value of a kind. -/
def ofKind (kind value : String) : String := kind ++ "(" ++ value ++ ")"

/-- Items between brackets. -/
def bracketed (items : List String) : String := "[" ++ String.intercalate ", " items ++ "]"

/-- A truth value. -/
def truthText (b : Bool) : String := if b then "true" else "false"

/-- Numbers in reports: as in data, but an exponent has no plus sign. -/
def reportLayout : Decimal.Layout := { Decimal.dataLayout with exponentPlus := "" }

/-- A function or filter with its arguments. -/
def callRecord (name : String) (args : List String) : String :=
  record "FunctionCall"
    [("name", quoted name), ("args", "\x7b" ++ String.intercalate ", " args ++ "\x7d")]

/-- The names of the operators. -/
def Operator.reportName : Operator → String
  | .plus => "Add"
  | .minus => "Sub"
  | .times => "Mul"
  | .divided => "Div"
  | .modulo => "Modulo"

/-- The names of the comparisons. -/
def Relation.reportName : Relation → String
  | .equal => "Eq"
  | .different => "NotEq"
  | .less => "Lt"
  | .atMost => "Lte"
  | .greater => "Gt"
  | .atLeast => "Gte"

/-- The names of the connectives. -/
def Connective.reportName : Connective → String
  | .both => "And"
  | .either => "Or"

/-! ### Terms -/

/-- What a report shows of a term. -/
structure Outline where
  value : String
  filters : List String
  negated : Bool

/-- The outline of a value without filters. -/
def Outline.ofValue (value : String) : Outline := ⟨value, [], false⟩

/-- The text of an outline. -/
def Outline.text (o : Outline) : String :=
  record "Expr" [("val", o.value), ("negated", truthText o.negated),
    ("filters", bracketed o.filters)]

/-- The text of two terms and what stands between them. -/
def pairRecord (kind name : String) (l r : Outline) (between : String) : String :=
  ofKind kind (record name [("lhs", l.text), ("rhs", r.text), ("operator", between)])

mutual

/-- The outline of a term. -/
def Term.outline : Term → Outline
  | .text s => .ofValue (ofKind "String" (quoted s))
  | .int n => .ofValue (ofKind "Int" (Decimal.ofInt n))
  | .float x => .ofValue (ofKind "Float" (reportLayout.write x))
  | .bool b => .ofValue (ofKind "Bool" (truthText b))
  | .variable path => .ofValue (ofKind "Ident" (quoted path))
  | .call name args => .ofValue (ofKind "FunctionCall" (callRecord name (argumentTexts args)))
  | .foreign space name =>
    .ofValue (ofKind "MacroCall" (record "MacroCall"
      [("namespace", quoted space), ("name", quoted name), ("args", "\x7b\x7d")]))
  | .joined parts =>
    .ofValue (ofKind "StringConcat" (record "StringConcat"
      [("values", bracketed (valueTexts parts))]))
  | .arithmetic op l r =>
    .ofValue (pairRecord "Math" "MathExpr" l.outline r.outline op.reportName)
  | .compared rel l r =>
    .ofValue (pairRecord "Logic" "LogicExpr" l.outline r.outline rel.reportName)
  | .connected c l r =>
    .ofValue (pairRecord "Logic" "LogicExpr" l.outline r.outline c.reportName)
  | .member absent l r =>
    .ofValue (ofKind "In" (record "In"
      [("lhs", l.outline.text), ("rhs", r.outline.text), ("negated", truthText absent)]))
  | .tested path opposite test args =>
    .ofValue (ofKind "Test" (record "Test"
      [("ident", quoted path), ("negated", truthText opposite), ("name", quoted test),
        ("args", bracketed (termTexts args))]))
  | .array items => .ofValue (ofKind "Array" (bracketed (termTexts items)))
  | .filtered t name args =>
    let o := t.outline
    { o with filters := o.filters ++ [callRecord name (argumentTexts args)] }
  | .negated t => { t.outline with negated := true }

/-- The texts of named arguments. -/
def argumentTexts : List (String × Term) → List String
  | [] => []
  | (key, t) :: rest => (quoted key ++ ": " ++ t.outline.text) :: argumentTexts rest

/-- The texts of terms. -/
def termTexts : List Term → List String
  | [] => []
  | t :: rest => t.outline.text :: termTexts rest

/-- The values of terms. -/
def valueTexts : List Term → List String
  | [] => []
  | t :: rest => t.outline.value :: valueTexts rest

end

/-- The text of a term's structure. -/
def Term.described (t : Term) : String := t.outline.text

end Template

end JellyViews
