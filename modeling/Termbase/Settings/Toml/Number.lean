import Termbase.Settings.Scalar
import Termbase.Settings.Scan

namespace Termbase.Toml

/-- The digits of a number, between which single underscores may stand. -/
def digitsOf : List Char → Option (List Char)
  | [] => none
  | [c] => if (Number.hexDigit? c).isSome then some [c] else none
  | c :: '_' :: rest =>
    if (Number.hexDigit? c).isSome then (digitsOf rest).map (c :: ·) else none
  | c :: rest => if (Number.hexDigit? c).isSome then (digitsOf rest).map (c :: ·) else none

def signed : List Char → List Char × List Char
  | '-' :: cs => (['-'], cs)
  | '+' :: cs => ([], cs)
  | cs => ([], cs)

/-- The digits of a decimal number that does not start with a needless zero. -/
def wholeDigits? (cs : List Char) : Option (List Char) := do
  let digits ← digitsOf cs
  if digits.head? = some '0' ∧ digits.length ≠ 1 then none
  else if digits.all fun c => (Number.digit? c).isSome then some digits
  else none

def integer? (cs : List Char) : Option Int64 := do
  let (sign, cs) := signed cs
  Number.signed64? (sign ++ (← wholeDigits? cs))

/-- A number of another base than ten, which has no sign. -/
def based? (base : Nat) (cs : List Char) : Option Int64 := do
  let n ← Number.numeral? base (← digitsOf cs)
  if n < Number.twoTo 63 then some (Int64.ofNat n) else none

/-- The characters of a number up to one of two marks, and what follows from the mark on. -/
def upTo (first second : Char) (cs : List Char) : List Char × List Char :=
  let isBefore := fun c => c ≠ first && c ≠ second
  (cs.takeWhile isBefore, cs.dropWhile isBefore)

def fractionOf : List Char → Option (List Char)
  | [] => some []
  | _ :: cs => do
    let digits ← digitsOf cs
    return '.' :: digits

def exponentOf : List Char → Option (List Char)
  | [] => some []
  | _ :: cs => do
    let (sign, cs) := signed cs
    return 'e' :: (sign ++ (← digitsOf cs))

/-- A number with a fraction or an exponent, or one of the names of an infinity and of no number.
Nothing else is as large as an infinity. -/
def real? (cs : List Char) : Option Number.Real := do
  let (sign, rest) := signed cs
  if rest = ['i', 'n', 'f'] then return .infinite (!sign.isEmpty)
  else if rest = ['n', 'a', 'n'] then return .nan
  else
    let (mantissa, exponent) := upTo 'e' 'E' rest
    let (whole, fraction) := upTo '.' '.' mantissa
    let digits := (← wholeDigits? whole) ++ (← fractionOf fraction) ++ (← exponentOf exponent)
    match Number.Real.ofText? (String.ofList (sign ++ digits)) with
    | some (.infinite false) => none
    | x => x

/-- The value of a word that is no text: a truth value or a number. -/
def word? (cs : List Char) : Option Scalar :=
  match cs with
  | ['t', 'r', 'u', 'e'] => some (.boolean true)
  | ['f', 'a', 'l', 's', 'e'] => some (.boolean false)
  | '0' :: 'x' :: digits => (based? 16 digits).map .integer
  | '0' :: 'o' :: digits => (based? 8 digits).map .integer
  | '0' :: 'b' :: digits => (based? 2 digits).map .integer
  | _ =>
    match integer? cs with
    | some n => some (.integer n)
    | none =>
      match wholeDigits? (signed cs).2 with
      | some _ => none
      | none => (real? cs).map .real

end Termbase.Toml
