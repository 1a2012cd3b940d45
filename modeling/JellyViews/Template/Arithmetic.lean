/-
**Arithmetic in templates.**

Integers have 64 bits, and a sum, a difference or a product that needs more is a fault.  Division
goes through doubles; a quotient without a fraction is an integer again.  The result of an operation
on doubles may be no finite number; it is then undefined, and so is every operation on it.

Main definitions:

* `Template.Operand` — what an operation is applied to;
* `Template.calculate` — the result of an operation;
* `Template.remainder` — the remainder of two doubles.
-/

import JellyViews.Template.Described
import JellyViews.Template.Fault.Operand
import JellyViews.Template.Lexeme
import JellyViews.Template.Value

set_option relaxedAutoImplicit false
set_option autoImplicit false

namespace JellyViews

namespace Template

/-! ### Operands -/

/-- What an operand is: a number, or the result of an operation that is no number. -/
inductive Operand where
  | number (v : Json)
  | undefined

namespace Operand

/-- The operand of a double. -/
def ofDouble (x : Float) : Operand := if x.isFinite then .number (.float x) else .undefined

/-- The value of an operand: a text stands for one that is undefined. -/
def value : Operand → Json
  | number v => v
  | undefined => .string "NaN"

/-- Whether an operand counts as true. -/
def isTrue : Operand → Bool
  | number v => toDouble v != 0.0
  | undefined => false

/-- The number that a value is, or else a fault. -/
def ofValue (fault : OperandFault) (v : Json) : Except OperandFault Operand :=
  if isNumber v then .ok (.number v) else .error fault

end Operand

/-! ### Operations on doubles -/

/-- The number `mantissa · 2^exponent` as a double, for a mantissa of at most 53 bits. -/
def scaled (negative : Bool) (mantissa : Nat) (exponent : Int) : Float :=
  let x := (Float.ofNat mantissa).scaleB exponent
  if negative then -x else x

/-- The remainder of two doubles, exactly; it has the sign of the first one. -/
def remainder (x y : Float) : Float :=
  match Decimal.Reading.ofBits x.toBits, Decimal.Reading.ofBits y.toBits with
  | .finite a, .finite b =>
    if b.mantissa = 0 then 0.0 / 0.0
    else
      let e := min a.exponent b.exponent
      let m := a.mantissa * Nat.pow 2 (a.exponent - e).toNat
      let n := b.mantissa * Nat.pow 2 (b.exponent - e).toNat
      scaled a.negative (m % n) e
  | .finite _, .infinite _ => x
  | _, _ => 0.0 / 0.0

/-- The operator on doubles. -/
def Operator.onDoubles : Operator → Float → Float → Float
  | plus, l, r => l + r
  | minus, l, r => l - r
  | times, l, r => l * r
  | divided, l, r => l / r
  | modulo, l, r => remainder l r

/-- The operand of a quotient: an integer, if there is no fraction. -/
def quotientOf (x : Float) : Operand :=
  if x.isFinite && x.round == x then .number (.int x.toInt64.toInt) else .ofDouble x

/-! ### Operations -/

/-- The sign of an operator in reports. -/
def Operator.sign : Operator → String
  | plus => "+"
  | minus => "-"
  | times => "x"
  | divided => "/"
  | modulo => "%"

/-- The integer, if it fits into 64 bits. -/
def bounded (op : Operator) (l r n : Int) : Except OperandFault Operand :=
  if Lexeme.fitsWord n then .ok (.number (.int n)) else .error (.outOfBounds op.sign l r)

/-- The operation on integers that the values of two terms are. -/
def calculateInts (op : Operator) (s t : Term) (l r : Int) : Except OperandFault Operand :=
  match op with
  | .plus => bounded op l r (l + r)
  | .minus => bounded op l r (l - r)
  | .times => bounded op l r (l * r)
  | .divided => .ok (quotientOf (Float.ofInt l / Float.ofInt r))
  | .modulo =>
    if r = 0 then .error (.noRemainder s.described t.described)
    else .ok (.number (.int (l.tmod r)))

/-- The operation on the operands that two terms are. -/
def calculate (op : Operator) (s t : Term) : Operand → Operand → Except OperandFault Operand
  | .number (.int l), .number (.int r) => calculateInts op s t l r
  | .number l, .number r =>
    let x := op.onDoubles (toDouble l) (toDouble r)
    .ok (if op = .divided then quotientOf x else .ofDouble x)
  | _, _ => .ok .undefined

end Template

end JellyViews
