import Termbase.Number.Binary64
import Termbase.Number.Digits

namespace Termbase.Number

/-- The decimal number `digits * 10 ^ power`. -/
structure Decimal where
  digits : Nat
  power : Int
  deriving DecidableEq, Repr

namespace Decimal

def ratio (d : Decimal) : Nat × Nat :=
  if 0 ≤ d.power then (d.digits * tenTo d.power.toNat, 1)
  else (d.digits, tenTo (-d.power).toNat)

def trimmed (d : Decimal) : Decimal :=
  if h : d.digits ≠ 0 ∧ d.digits % 10 = 0 then trimmed ⟨d.digits / 10, d.power + 1⟩ else d
termination_by d.digits
decreasing_by omega

end Decimal

namespace Binary64

/-- Four times the ends of the interval of reals that round to the number, in units of
`2 ^ exponent`. Below a power of two the numbers are twice as dense. -/
def interval (x : Binary64) : Nat × Nat :=
  (if x.mantissa = twoTo 52 ∧ leastExponent < x.exponent then 4 * x.mantissa - 1
    else 4 * x.mantissa - 2,
   4 * x.mantissa + 2)

/-- Whether a decimal reads back as the number; the ends of the interval do so when the mantissa
is even. -/
def isReadFrom (x : Binary64) (d : Decimal) : Bool :=
  let unit : Nat × Nat := (⟨1, x.exponent⟩ : Binary64).ratio
  let value := 4 * d.ratio.1 * unit.2
  let one := d.ratio.2 * unit.1
  if x.mantissa % 2 = 0 then
    decide (x.interval.1 * one ≤ value) && decide (value ≤ x.interval.2 * one)
  else decide (x.interval.1 * one < value) && decide (value < x.interval.2 * one)

/-- The number of times that `num` can be multiplied by ten before it reaches `den`. -/
def leadingZeros : Nat → Nat → Nat → Nat
  | 0, _, _ => 0
  | fuel + 1, num, den => if den ≤ num then 0 else leadingZeros fuel (num * 10) den + 1

/-- The power of ten of the first digit. -/
def decimalExponent (x : Binary64) : Int :=
  let (num, den) := x.ratio
  if den ≤ num then ((Number.digits (num / den)).length : Int) - 1
  else -(leadingZeros 400 num den : Int)

/-- The neighbour of the number on the grid of multiples of `10 ^ power` that reads back as it
and is nearest; of two equally near ones the even one. -/
def onGrid? (x : Binary64) (power : Int) : Option Decimal :=
  let (num, den) := x.ratio
  let (n, d) := if 0 ≤ power then (num, den * tenTo power.toNat)
    else (num * tenTo (-power).toNat, den)
  let low : Decimal := ⟨n / d, power⟩
  let high : Decimal := ⟨n / d + 1, power⟩
  match x.isReadFrom low, x.isReadFrom high with
  | true, true =>
    let nearer := roundHalfEven n d
    some (if nearer = low.digits then low else high)
  | true, false => some low
  | false, true => some high
  | false, false => none

/-- Tries grids of growing fineness, `count` of them, from the one of a single digit on. -/
def shortestFrom (x : Binary64) (exponent : Int) : Nat → Decimal
  | 0 => ⟨0, 0⟩
  | count + 1 =>
    match x.onGrid? (exponent - (16 - count : Nat)) with
    | some d => d
    | none => shortestFrom x exponent count

/-- The decimal with the fewest digits that reads back as the number, nearest to it of those. -/
def shortest (x : Binary64) : Decimal :=
  if x.mantissa = 0 then ⟨0, 0⟩ else (shortestFrom x x.decimalExponent 17).trimmed

/-- The text of a number: positional from `10 ^ -5` up to sixteen digits before the point, with
at least one digit after it, and with a signed exponent otherwise. -/
def chars (negative : Bool) (x : Binary64) : List Char :=
  let d := x.shortest
  let ds := Number.digits d.digits
  let exponent : Int := d.power + (ds.length : Int) - 1
  let body :=
    if d.digits = 0 then ['0', '.', '0']
    else if 15 < exponent ∨ exponent < -5 then
      let mark := if 0 ≤ exponent then ['e', '+'] else ['e', '-']
      let fraction := match ds.drop 1 with
        | [] => []
        | rest => '.' :: rest
      ds.take 1 ++ fraction ++ mark ++ Number.digits exponent.natAbs
    else if exponent < 0 then
      ['0', '.'] ++ List.replicate (-exponent - 1).toNat '0' ++ ds
    else if 0 ≤ d.power then ds ++ List.replicate d.power.toNat '0' ++ ['.', '0']
    else ds.take (exponent.toNat + 1) ++ '.' :: ds.drop (exponent.toNat + 1)
  if negative then '-' :: body else body

end Binary64

end Termbase.Number
