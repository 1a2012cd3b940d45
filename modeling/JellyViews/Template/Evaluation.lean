/-
**Evaluating templates.**

A term can stand where a value, a condition or a number is wanted, and it means something for each
of the three.  The body of a section is rendered before the arguments of its filter are evaluated.

Main definitions:

* `Template.Setting` — what a template can refer to;
* `Template.Meaning`, `Template.Term.meaning` — what a term means;
* `Template.Term.eval` — the value of a term;
* `Template.Node.render`, `Template.renderNodes` — the text of a template.
-/

import JellyViews.Json.Described
import JellyViews.Template.Arithmetic
import JellyViews.Template.Lookup
import JellyViews.Template.Tags
import JellyViews.Template.Test

set_option relaxedAutoImplicit false
set_option autoImplicit false

namespace JellyViews

namespace Template

open Tag

/-- What a template can refer to: the tags, its variables, and its own name for reports. -/
structure Setting where
  registry : Registry
  vars : Variables
  name : String

/-- The value of a variable. -/
def Setting.lookup (s : Setting) (path : String) : Except Fault Json :=
  Template.lookup s.vars s.name path

/-! ### Faults -/

/-- Marks the faults of a step. -/
def inside {α : Type} (mark : Fault → Fault) : Except Fault α → Except Fault α
  | .ok a => .ok a
  | .error e => .error (mark e)

/-- A fault of an operation as a fault of the template. -/
def ofOperand {α : Type} : Except OperandFault α → Except Fault α
  | .ok a => .ok a
  | .error e => .error (.operand e)

/-- A fault of a test as a fault of the template. -/
def ofTest {α : Type} : Except TestFault α → Except Fault α
  | .ok a => .ok a
  | .error e => .error (.test e)

/-! ### Meanings -/

/-- What a term means where a value, a condition or a number is wanted. -/
structure Meaning where
  value : Except Fault Json
  condition : Except Fault Bool
  number : Except Fault Operand

namespace Meaning

/-- The meaning of a value that is no number, with a fault where a number is wanted. -/
def ofValue (v : Json) (fault : OperandFault) : Meaning :=
  ⟨.ok v, .ok (isTruthy v), .error (.operand fault)⟩

/-- The meaning of a number. -/
def ofNumber (v : Json) : Meaning :=
  ⟨.ok v, .ok (isTruthy v), .ok (.number v)⟩

/-- The meaning of a condition, with a fault where a number is wanted. -/
def ofCondition (b : Except Fault Bool) (fault : OperandFault) : Meaning :=
  ⟨b.map .bool, b, .error (.operand fault)⟩

/-- The meaning of the result of arithmetic: as a value, only the outermost message of its fault
counts. -/
def ofResult (x : Except Fault Operand) : Meaning :=
  ⟨inside .inArithmetic (x.map Operand.value), x.map Operand.isTrue, x⟩

/-- The number that a value is, or else a fault. -/
def numberOf (v : Except Fault Json) (fault : OperandFault) : Except Fault Operand := do
  let v ← v
  ofOperand (Operand.ofValue fault v)

/-- The meaning of a variable: as a condition, one without a value is false. -/
def ofVariable (path : String) (v : Except Fault Json) : Meaning :=
  ⟨v, .ok (v.toOption.any isTruthy), numberOf v (.variable path)⟩

/-- The truth value that the value of a function is. -/
def truthOf (name : String) (v : Except Fault Json) : Except Fault Bool := do
  match (← v) with
  | .bool b => return b
  | _ => .error (.operand (.undecided name))

/-- The meaning of a function call. -/
def ofCall (name : String) (v : Except Fault Json) : Meaning :=
  ⟨v, truthOf name v, numberOf v (.function name)⟩

/-- The meaning of joined texts, which are given as they are written, too. -/
def ofText (source : String) (text : Except Fault String) : Meaning :=
  ⟨text.map .string, text.map (· != ""), .error (.operand (.joined source))⟩

end Meaning

/-! ### Comparisons -/

/-- Whether the first number comes before the second. -/
def Relation.onDoubles : Relation → Float → Float → Bool
  | less, l, r => l < r
  | atMost, l, r => l ≤ r
  | greater, l, r => r < l
  | atLeast, l, r => r ≤ l
  | equal, l, r => l == r
  | different, l, r => l != r

/-- The outcome for two numbers. -/
def compareNumbers (rel : Relation) : Operand → Operand → Except OperandFault Bool
  | .number l, .number r => .ok (rel.onDoubles (toDouble l) (toDouble r))
  | _, _ => .error .incomparable

/-- The outcome of a comparison; there is none for a number and something else, if they are to be
equal or different. -/
def verdict (rel : Relation) (l r : Meaning) : Except Fault (Option Bool) :=
  match rel with
  | .equal => do
    let x ← l.value
    let y ← r.value
    return if isNumber x != isNumber y then none else some (valuesEqual x y)
  | .different => do
    let x ← l.value
    let y ← r.value
    return if isNumber x != isNumber y then none else some (!valuesEqual x y)
  | _ => do
    let x ← l.number
    let y ← r.number
    let b ← ofOperand (compareNumbers rel x y)
    return some b

/-- The meaning of a comparison: without an outcome it is false. -/
def comparisonMeaning (outcome : Except Fault (Option Bool)) : Meaning :=
  .ofCondition (outcome.map (·.getD false)) .other

/-- The meaning of a negated condition: its value is negated once more. -/
def negatedCondition (negation : Except Fault Bool) : Meaning :=
  ⟨negation.map fun b => .bool !b, negation, .error (.operand .other)⟩

/-- The meaning of a negated comparison: without an outcome it is false all the same. -/
def negatedComparison (outcome : Except Fault (Option Bool)) : Meaning :=
  negatedCondition (outcome.map fun o => (o.map not).getD false)

/-- The outcome of two conditions; the second one is needed only if the first does not decide. -/
def connect (c : Connective) (l r : Meaning) : Except Fault Bool := do
  let b ← l.condition
  match c, b with
  | .both, true => r.condition
  | .both, false => return false
  | .either, true => return true
  | .either, false => r.condition

/-- Whether a value is a part of another: an item, a text inside of a text, or a key. -/
def isMember (v place : Json) : Except OperandFault Bool :=
  match place, v with
  | .array vs, _ => .ok (vs.contains v)
  | .string s, .string part => .ok (Text.occursIn part s)
  | .string _, _ => .error (.notFindable v.described "string")
  | .object fields, .string key => .ok (fields.lookup key).isSome
  | .object _, _ => .error (.notFindable v.described "object")
  | _, _ => .error .partless

/-! ### Filters and texts -/

/-- The filters that change nothing. -/
def isIdle (filter : String) : Bool := filter == "safe" || filter == "default"

/-- Whether a term is a variable without a value, filtered or not; a value that stands in for it
counts. -/
def Setting.lacks (s : Setting) : Term → Bool
  | .variable path => (s.lookup path).toOption.isNone
  | .filtered (.variable path) name _ => name != "default" && (s.lookup path).toOption.isNone
  | .filtered t _ _ => s.lacks t
  | _ => false

/-- Whether a filter supplies the value of a term: it is the first one on a variable without a
value. -/
def Setting.supplies (s : Setting) (filter : String) : Term → Bool
  | .variable path => filter == "default" && (s.lookup path).toOption.isNone
  | _ => false

/-- Whether a term is a variable, filtered or not. -/
def Term.isVariable : Term → Bool
  | .variable _ => true
  | .filtered t _ _ => t.isVariable
  | _ => false

/-- Whether a term is joined texts, filtered or not. -/
def Term.isJoined : Term → Bool
  | .joined _ => true
  | .filtered t _ _ => t.isJoined
  | _ => false

/-- The meaning of a term with filters, whose value is `v`: as a condition, only variables and
joined texts take their filters into account. -/
def filteredMeaning (t : Term) (m : Meaning) (v : Except Fault Json) : Meaning :=
  ⟨v,
    if t.isVariable then .ok (v.toOption.any isTruthy)
    else if t.isJoined then v.map isTruthy
    else m.condition,
    Meaning.numberOf v .other⟩

/-- The meaning of a negated term. -/
def negatedMeaning (s : Setting) (t : Term) (m : Meaning) : Meaning :=
  let v : Except Fault Json :=
    if s.lacks t then .ok (.bool true) else m.value.map fun v => .bool (!isTruthy v)
  ⟨v, if t.isVariable then .ok (v.toOption.any isTruthy) else m.condition.map not,
    .error (.operand .other)⟩

/-- The text of a part of joined texts. -/
def joinedText (t : Term) (v : Json) : Except Fault String :=
  match t, v with
  | _, .string s => .ok s
  | .call _ _, .int n => .ok (Decimal.ofInt n)
  | .call _ _, .float x => .ok (Decimal.dataLayout.write x)
  | _, .int n => .ok (Decimal.ofInt n)
  | _, .float x => .ok (Decimal.attributeLayout.write x)
  | .call name _, _ => .error (.notJoinable ("function call " ++ name))
  | .variable path, _ => .error (.notJoinable ("ident " ++ path))
  | _, _ => .error (.notJoinable "a term")

/-- A part of joined texts as a report writes it. -/
def partSource : Term → String
  | .text s => "'" ++ s ++ "'"
  | .variable path => path
  | _ => "unknown"

/-- The text of a join as a report writes it. -/
def joinSource (parts : List Term) : String := String.intercalate " ~ " (parts.map partSource)

/-! ### Terms -/

mutual

/-- What a term means. -/
def Term.meaning (s : Setting) : Term → Meaning
  | .text t => .ofValue (.string t) (.text t)
  | .int n => .ofNumber (.int n)
  | .float x => .ofNumber (.float x)
  | .bool b => .ofValue (.bool b) (.bool b)
  | .variable path => .ofVariable path (s.lookup path)
  | .call name args =>
    .ofCall name (do
      let f ← functionNamed s.registry name
      inside (.inFunction name) (do
        let values ← evalArgs s args
        f values))
  | .foreign space _ =>
    let fault := Fault.unknownSpace space s.name
    ⟨.error fault, .error fault, .error fault⟩
  | .joined parts => .ofText (joinSource parts) (evalParts s parts)
  | .arithmetic op l r =>
    .ofResult (do
      let x ← (l.meaning s).number
      let y ← (r.meaning s).number
      ofOperand (calculate op l r x y))
  | .compared rel l r => comparisonMeaning (verdict rel (l.meaning s) (r.meaning s))
  | .connected c l r => .ofCondition (connect c (l.meaning s) (r.meaning s)) .other
  | .member absent l r =>
    .ofCondition (do
      let x ← (l.meaning s).value
      let y ← (r.meaning s).value
      let found ← ofOperand (isMember x y)
      return found != absent) .other
  | .tested path opposite name args =>
    .ofCondition (do
      match standardTest? name with
      | none => .error (.unknownTest name)
      | some test =>
        inside (.inTest name) (do
          let values ← evalItems s args
          let outcome ← ofTest (test (s.lookup path).toOption values)
          return outcome != opposite)) (.test name)
  | .array items =>
    let v : Except Fault Json := (evalItems s items).map .array
    ⟨v, v.map isTruthy, .error (.operand .other)⟩
  | .filtered t name args =>
    let m := t.meaning s
    filteredMeaning t m (
      if s.supplies name t then evalDefault s args
      else if isIdle name then m.value
      else do
        let v ← m.value
        let f ← filterNamed s.registry name
        inside (.inFilter name) (do
          let values ← evalArgs s args
          f v values))
  | .negated (.compared rel l r) => negatedComparison (verdict rel (l.meaning s) (r.meaning s))
  | .negated t => negatedMeaning s t (t.meaning s)

/-- The values of named arguments. -/
def evalArgs (s : Setting) : List (String × Term) → Except Fault Values
  | [] => .ok []
  | (key, t) :: rest => do
    let v ← (t.meaning s).value
    let vs ← evalArgs s rest
    return (key, v) :: vs

/-- The value that stands in for a variable without one. -/
def evalDefault (s : Setting) : List (String × Term) → Except Fault Json
  | [] => .error .noDefault
  | (key, t) :: rest => if key = "value" then (t.meaning s).value else evalDefault s rest

/-- The values of terms, in order. -/
def evalItems (s : Setting) : List Term → Except Fault (List Json)
  | [] => .ok []
  | t :: rest => do
    let v ← (t.meaning s).value
    let vs ← evalItems s rest
    return v :: vs

/-- The texts of parts, one after the other. -/
def evalParts (s : Setting) : List Term → Except Fault String
  | [] => .ok ""
  | t :: rest => do
    let v ← (t.meaning s).value
    let text ← joinedText t v
    let more ← evalParts s rest
    return text ++ more

end

/-- The value of a term. -/
def Term.eval (s : Setting) (t : Term) : Except Fault Json := (t.meaning s).value

/-! ### Templates -/

mutual

/-- The text of a part of a template. -/
def Node.render (s : Setting) : Node → Except Fault String
  | .text t => .ok t
  | .output t => do
    let v ← t.eval s
    return shown v
  | .section name args body => do
    let text ← renderNodes s body
    if name = "safe" then return text
    let f ← filterNamed s.registry name
    let v ← inside (.inFilter name) (do
      let values ← evalArgs s args
      f (.string text) values)
    return shown v

/-- The texts of the parts, one after the other. -/
def renderNodes (s : Setting) : List Node → Except Fault String
  | [] => .ok ""
  | n :: rest => do
    let text ← n.render s
    let more ← renderNodes s rest
    return text ++ more

end

end Template

end JellyViews
