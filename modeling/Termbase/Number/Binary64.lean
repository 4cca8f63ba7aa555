import Termbase.Number.Digits

namespace Termbase.Number

/-- The double-precision number `mantissa * 2 ^ exponent`, without its sign. Normal numbers have
a mantissa of 53 bits; smaller mantissas come with the least exponent only. -/
structure Binary64 where
  mantissa : Nat
  exponent : Int
  deriving DecidableEq, Repr

namespace Binary64

def leastExponent : Int := -1074

def zero : Binary64 := ⟨0, leastExponent⟩

def ratio (x : Binary64) : Nat × Nat :=
  if 0 ≤ x.exponent then (x.mantissa * twoTo x.exponent.toNat, 1)
  else (x.mantissa, twoTo (-x.exponent).toNat)

/-- The quotient `num / den` in units of `2 ^ exponent`. -/
def inUnits (num den : Nat) (exponent : Int) : Nat × Nat :=
  if 0 ≤ exponent then (num, den * twoTo exponent.toNat) else (num * twoTo (-exponent).toNat, den)

/-- The natural number nearest to `num / den`; a tie goes to the even one. -/
def roundHalfEven (num den : Nat) : Nat :=
  let low := num / den
  let rest := num % den
  if 2 * rest < den then low
  else if den < 2 * rest then low + 1
  else if low % 2 = 0 then low else low + 1

/-- The exponent that gives `num / den` a mantissa of 53 bits, or the least one. -/
def exponentOf (num den : Nat) : Int :=
  let guess : Int := (num.log2 : Int) - (den.log2 : Int) - 52
  let scaled := inUnits num den guess
  max leastExponent (if scaled.1 < twoTo 52 * scaled.2 then guess - 1 else guess)

def nearest? (num den : Nat) : Option Binary64 :=
  if num = 0 then some zero
  else
    let exponent := exponentOf num den
    let scaled := inUnits num den exponent
    let mantissa := roundHalfEven scaled.1 scaled.2
    let rounded : Binary64 :=
      if mantissa = twoTo 53 then ⟨twoTo 52, exponent + 1⟩ else ⟨mantissa, exponent⟩
    if 971 < rounded.exponent then none else some rounded

def powerOfTen (n : Nat) : Binary64 := (nearest? (tenTo n) 1).getD zero

def mul? (x y : Binary64) : Option Binary64 :=
  nearest? (x.ratio.1 * y.ratio.1) (x.ratio.2 * y.ratio.2)

def div? (x y : Binary64) : Option Binary64 :=
  nearest? (x.ratio.1 * y.ratio.2) (x.ratio.2 * y.ratio.1)

/-- Divides by the largest power of ten that is a double, `times` times, each of which rounds. -/
def divLargestPower (x : Binary64) : Nat → Binary64
  | 0 => x
  | times + 1 =>
    if x.mantissa = 0 then x
    else divLargestPower ((x.div? (powerOfTen 308)).getD zero) times

/-- Divides by `10 ^ n`, in steps of at most `10 ^ 308`. -/
def divPowerOfTen (x : Binary64) (n : Nat) : Binary64 :=
  let times := (n - 1) / 308
  ((x.divLargestPower times).div? (powerOfTen (n - 308 * times))).getD zero

/-- The double read for `significand * 10 ^ power`: the significand is rounded, then scaled by a
rounded power of ten. `none` means that it is too large. -/
def ofDecimal? (significand : Nat) (power : Int) : Option Binary64 :=
  match nearest? significand 1 with
  | none => none
  | some x =>
    if power < 0 then some (x.divPowerOfTen (-power).toNat)
    else if power ≤ 308 then x.mul? (powerOfTen power.toNat)
    else if x.mantissa = 0 then some x else none

end Binary64

end Termbase.Number
