import Termbase.Settings.Scalar
import Termbase.Settings.Scan

namespace Termbase.Ron

def isRealChar (c : Char) : Bool :=
  (Number.digit? c).isSome || "eE.+-_".contains c

def isIntegerChar (c : Char) : Bool := (Number.hexDigit? c).isSome || c = '_'

def isReal (s : List Char) : Bool :=
  let digits := Number.afterSign s
  (digits.takeWhile isIntegerChar).length < (digits.takeWhile isRealChar).length

def based : List Char → Nat × List Char
  | '0' :: 'x' :: digits => (16, digits)
  | '0' :: 'o' :: digits => (8, digits)
  | '0' :: 'b' :: digits => (2, digits)
  | digits => (10, digits)

/-- A number of 64 bits with a sign, or without one. What is too large for a signed number becomes
a real one. -/
def wholeNumber? (sign : Option Char) (n : Nat) : Option Scalar :=
  match sign with
  | some '-' => if n ≤ Number.twoTo 63 then some (.integer (Int64.ofInt (-(n : Int)))) else none
  | some _ => if n < Number.twoTo 63 then some (.integer (Int64.ofNat n)) else none
  | none =>
    if n < Number.twoTo 63 then some (.integer (Int64.ofNat n))
    else if n < Number.twoTo 64 then some (.real (Number.Real.ofDecimal false n 0))
    else none

/-- Reads an integer. Underscores may stand after its first digit. -/
def integer? : Scan Scalar := fun s => do
  let sign := s.head?.filter fun c => c = '-' || c = '+'
  let (base, rest) := based (Number.afterSign s)
  let digits := rest.takeWhile isIntegerChar
  if digits.head? = some '_' then none
  else
    let n ← Number.numeral? base (digits.filter (· ≠ '_'))
    return (← wholeNumber? sign n, rest.drop digits.length)

/-- The infinities and what is no number, with a sign in front. -/
def signedNames : List (String × Number.Real) :=
  [("+inf", .infinite false), ("-inf", .infinite true), ("+NaN", .nan), ("-NaN", .nan)]

def real? : Scan Scalar := fun s =>
  let word := s.take 1 ++ s.tail.takeWhile fun c => c.isAlphanum || c = '_'
  match signedNames.lookup (String.ofList word) with
  | some x => some (.real x, s.drop word.length)
  | none =>
    let chars := s.takeWhile isRealChar
    if chars.contains '_' then none
    else (Number.Real.ofText? (String.ofList chars)).map fun x => (.real x, s.drop chars.length)

def startsNumber (c : Char) : Bool := (Number.digit? c).isSome || "+-.".contains c

/-- Reads a number. One that is no integer may be a number with a fraction up to there. -/
def number? : Scan Scalar := fun s =>
  if isReal s then real? s else (integer? s).or (real? s)

end Termbase.Ron
