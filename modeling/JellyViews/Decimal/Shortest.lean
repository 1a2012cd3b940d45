/-
**The shortest decimal of a binary number.**

A finite double is `m · 2^q`.  The decimals that read back as it form an interval around it, which
reaches half way to each neighbour and holds its ends when `m` is even.  Among the decimals of the
interval with the fewest digits the nearest one is chosen; of two equally near ones, the even one.

The search goes through the grids `10^k` from coarse to fine.  If a point of a grid lies in the
interval, then so does one of the value's two neighbours on that grid, so two tests per grid are
enough, in exact arithmetic on natural numbers.

Main definitions:

* `Decimal.Binary` — a finite double, as sign, mantissa and exponent;
* `Decimal.Reading`, `Decimal.Reading.ofBits` — what a 64-bit pattern stands for;
* `Decimal.Digits` — a coefficient and a power of ten;
* `Decimal.shortest` — the shortest decimal that reads back.
-/

set_option relaxedAutoImplicit false
set_option autoImplicit false

namespace JellyViews

namespace Decimal

/-! ### Binary numbers -/

/-- The number `± mantissa · 2^exponent`. -/
structure Binary where
  negative : Bool
  mantissa : Nat
  exponent : Int

/-- What a 64-bit pattern stands for. -/
inductive Reading where
  | nan
  | infinite (negative : Bool)
  | finite (b : Binary)

/-- The number of fractions of a double: they have 52 bits. -/
def fractions : Nat := Nat.pow 2 52

/-- The number of exponents of a double: they have eleven bits. -/
def powers : Nat := Nat.pow 2 11

/-- The reading of a pattern: one sign bit, the exponent, and the fraction. -/
def Reading.ofBits (bits : UInt64) : Reading :=
  let n := bits.toNat
  let negative := n / (fractions * powers) == 1
  let power : Nat := n / fractions % powers
  let fraction : Nat := n % fractions
  if power = powers - 1 then
    if fraction = 0 then .infinite negative else .nan
  else if power = 0 then .finite ⟨negative, fraction, -1074⟩
  else .finite ⟨negative, fractions + fraction, (power : Int) - 1075⟩

/-! ### The interval of decimals that read back -/

/-- The number `coefficient · 10^exponent`. -/
structure Digits where
  coefficient : Nat
  exponent : Int

/-- The value `m · 2^q` and the ends of its interval on the grid `10^k`: each of the three is a
numerator over the common denominator `unit`. -/
structure Grid where
  low : Nat
  value : Nat
  high : Nat
  unit : Nat
  closed : Bool

/-- The grid `10^k` for `m · 2^q`.  Distances are counted in quarters of `2^q`; below a power of
two the lower neighbour is half as far. -/
def Grid.of (m : Nat) (q k : Int) : Grid :=
  let scale := Nat.pow 2 (q - 2).toNat * Nat.pow 10 (-k).toNat
  let below := if m = fractions && (-1074 : Int) < q then 1 else 2
  { low := (4 * m - below) * scale
    value := 4 * m * scale
    high := (4 * m + 2) * scale
    unit := Nat.pow 2 (2 - q).toNat * Nat.pow 10 k.toNat
    closed := m % 2 == 0 }

/-- Whether the grid point `d` reads back. -/
def Grid.holds (g : Grid) (d : Nat) : Bool :=
  let p := d * g.unit
  if g.closed then g.low ≤ p && p ≤ g.high else g.low < p && p < g.high

/-- The neighbour of the value on the grid that reads back, the nearer of the two if both do. -/
def Grid.hit (g : Grid) : Option Nat :=
  let d := g.value / g.unit
  if g.holds d then
    if g.holds (d + 1) then
      let below := g.value - d * g.unit
      let above := (d + 1) * g.unit - g.value
      if below < above then some d
      else if above < below then some (d + 1)
      else if d % 2 = 0 then some d else some (d + 1)
    else some d
  else if g.holds (d + 1) then some (d + 1) else none

/-! ### The search -/

/-- The first hit on the grids `10^k`, `10^(k-1)`, … -/
def search (m : Nat) (q : Int) : Nat → Int → Digits
  | 0, _ => ⟨m, 0⟩
  | fuel + 1, k =>
    match (Grid.of m q k).hit with
    | some d => ⟨d, k⟩
    | none => search m q fuel (k - 1)

/-- The coefficient without its trailing zeros. -/
def Digits.strip : Nat → Digits → Digits
  | 0, d => d
  | fuel + 1, d =>
    if d.coefficient ≠ 0 && d.coefficient % 10 == 0 then
      Digits.strip fuel ⟨d.coefficient / 10, d.exponent + 1⟩
    else d

/-- A grid at least as coarse as the leading digit of `m · 2^q`, at most two grids too coarse. -/
def coarsest (m : Nat) (q : Int) : Int := ((m.log2 : Int) + 1 + q) * 30103 / 100000 + 1

/-- The shortest decimal that reads back as `m · 2^q`; a double needs at most 17 digits. -/
def shortest (m : Nat) (q : Int) : Digits :=
  if m = 0 then ⟨0, 0⟩ else Digits.strip 20 (search m q 21 (coarsest m q))

end Decimal

end JellyViews
