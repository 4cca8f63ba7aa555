import Termbase.Settings.Scan

namespace Termbase.Toml

def fixedNumber? (places : Nat) : Scan Nat := fun s =>
  let digits := s.take places
  if digits.length = places then (Number.numeral? 10 digits).map fun n => (n, s.drop places) else none

def isLeapYear (year : Nat) : Bool :=
  year % 4 = 0 && (year % 100 ≠ 0 || year % 400 = 0)

def daysOf (year month : Nat) : Nat :=
  if month = 2 then if isLeapYear year then 29 else 28
  else if month ∈ [4, 6, 9, 11] then 30 else 31

/-- What a scanner has passed over. -/
def passed (s rest : List Char) : String := String.ofList (s.take (s.length - rest.length))

/-- Reads a date, which is kept as its text. -/
def date? : Scan String := fun s => do
  let (year, rest) ← fixedNumber? 4 s
  let '-' :: rest := rest | none
  let (month, rest) ← fixedNumber? 2 rest
  let '-' :: rest := rest | none
  let (day, rest) ← fixedNumber? 2 rest
  if 1 ≤ month ∧ month ≤ 12 ∧ 1 ≤ day ∧ day ≤ daysOf year month then
    return (passed s rest, rest)
  else none

/-- Nine digits of a fraction at most, without the zeros at its end. -/
def shortFraction (digits : List Char) : List Char :=
  (((digits.take 9).reverse).dropWhile (· = '0')).reverse

def fraction? : Scan String
  | '.' :: rest =>
    let digits := rest.takeWhile fun c => (Number.digit? c).isSome
    let kept := shortFraction digits
    if digits.isEmpty then none
    else some (if kept.isEmpty then "" else String.ofList ('.' :: kept), rest.drop digits.length)
  | s => some ("", s)

/-- Reads a time of a day; a minute may have a second more. -/
def time? : Scan String := fun s => do
  let (hour, rest) ← fixedNumber? 2 s
  let ':' :: rest := rest | none
  let (minute, rest) ← fixedNumber? 2 rest
  let ':' :: rest := rest | none
  let (second, rest) ← fixedNumber? 2 rest
  if hour < 24 ∧ minute < 60 ∧ second ≤ 60 then
    let (fraction, after) ← fraction? rest
    return (passed s rest ++ fraction, after)
  else none

/-- Reads how far a time is from the common one, if that is told. -/
def offset? : Scan String := fun s =>
  match s with
  | [] => some ("", [])
  | c :: rest =>
    if c = 'Z' ∨ c = 'z' then some ("Z", rest)
    else if c = '+' ∨ c = '-' then do
      let (hour, rest) ← fixedNumber? 2 rest
      let ':' :: rest := rest | none
      let (minute, rest) ← fixedNumber? 2 rest
      if hour < 24 ∧ minute < 60 then
        return (if hour = 0 ∧ minute = 0 then "+00:00" else passed s rest, rest)
      else none
    else some ("", s)

def moment? : Scan String := fun s =>
  match date? s with
  | none => time? s
  | some (date, rest) =>
    match rest with
    | [] => some (date, [])
    | c :: after =>
      if c = 'T' ∨ c = 't' ∨ c = ' ' then
        match time? after with
        | none => some (date, rest)
        | some (time, after) =>
          (offset? after).map fun offset => (date ++ "T" ++ time ++ offset.1, offset.2)
      else some (date, rest)

end Termbase.Toml
