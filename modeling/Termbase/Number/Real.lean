import Termbase.Number.Shortest

namespace Termbase.Number

/-- A number as a decimal text gives it: a double with its sign, an infinity or no number. -/
inductive Real where
  | finite (isNegative : Bool) (magnitude : Binary64)
  | infinite (isNegative : Bool)
  | nan
  deriving DecidableEq, Repr

namespace Real

/-- The double nearest to `digits * 10 ^ power`. Powers far beyond the doubles are not worked
out. -/
def ofDecimal (isNegative : Bool) (digits : Nat) (power : Int) : Real :=
  let magnitude : Int := power + (Number.digits digits).length
  if digits = 0 ∨ magnitude < -400 then .finite isNegative Binary64.zero
  else if 400 < magnitude then .infinite isNegative
  else
    let ratio := (⟨digits, power⟩ : Decimal).ratio
    match Binary64.nearest? ratio.1 ratio.2 with
    | some x => .finite isNegative x
    | none => .infinite isNegative

def isDigit (c : Char) : Bool := (digit? c).isSome

/-- The power of ten after the mark of an exponent, which has to fill the text. -/
def exponent? : List Char → Option Int
  | [] => some 0
  | c :: cs =>
    if c = 'e' ∨ c = 'E' then
      match cs with
      | '-' :: rest => (ofDigits? rest).map fun n => -(n : Int)
      | '+' :: rest => (ofDigits? rest).map fun n => (n : Int)
      | rest => (ofDigits? rest).map fun n => (n : Int)
    else none

/-- A number without its sign: digits with or without a point among them, at least one of them,
and an exponent. -/
def unsigned? (isNegative : Bool) (cs : List Char) : Option Real :=
  let whole := cs.takeWhile isDigit
  let rest := cs.dropWhile isDigit
  let (fraction, rest) := match rest with
    | '.' :: rest => (rest.takeWhile isDigit, rest.dropWhile isDigit)
    | rest => ([], rest)
  match ofDigits? (whole ++ fraction), exponent? rest with
  | some digits, some exponent =>
    some (ofDecimal isNegative digits (exponent - fraction.length))
  | _, _ => none

/-- Reads a decimal number, or the name of an infinity or of no number in any case. -/
def ofText? (text : String) : Option Real :=
  let (isNegative, cs) := match text.toList with
    | '-' :: cs => (true, cs)
    | '+' :: cs => (false, cs)
    | cs => (false, cs)
  let name := String.ofList (cs.map Char.toLower)
  if name = "inf" ∨ name = "infinity" then some (.infinite isNegative)
  else if name = "nan" then some .nan
  else unsigned? isNegative cs

/-- The digits of a decimal with the point in its place; there is none without a fraction. -/
def positionalChars (d : Decimal) : List Char :=
  let ds := digits d.digits
  if 0 ≤ d.power then
    if d.digits = 0 then ['0'] else ds ++ List.replicate d.power.toNat '0'
  else
    let places := (-d.power).toNat
    if places < ds.length then
      ds.take (ds.length - places) ++ '.' :: ds.drop (ds.length - places)
    else ['0', '.'] ++ List.replicate (places - ds.length) '0' ++ ds

/-- The shortest text that reads back as the number, without an exponent. -/
def text : Real → String
  | .finite isNegative x =>
    (if isNegative then "-" else "") ++ String.ofList (positionalChars x.shortest)
  | .infinite isNegative => if isNegative then "-inf" else "inf"
  | .nan => "NaN"

def largest64 : Nat := twoTo 64 - 1

/-- The nearest natural number of 64 bits; a tie goes away from zero. Nothing is below zero, and
no number counts as zero. -/
def toNatural64 : Real → Nat
  | .finite true _ => 0
  | .finite false x =>
    let (num, den) := x.ratio
    min ((2 * num + den) / (2 * den)) largest64
  | .infinite true => 0
  | .infinite false => largest64
  | .nan => 0

end Real

end Termbase.Number
