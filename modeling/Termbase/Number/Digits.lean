namespace Termbase.Number

def twoTo (n : Nat) : Nat := Nat.pow 2 n

def tenTo (n : Nat) : Nat := Nat.pow 10 n

def digit? (c : Char) : Option Nat :=
  if '0' ≤ c ∧ c ≤ '9' then some (c.toNat - '0'.toNat) else none

/-- Continues the decimal number `value` with the digits `cs`. -/
def appendDigits (value : Nat) : List Char → Option Nat
  | [] => some value
  | c :: cs => match digit? c with
    | some d => appendDigits (value * 10 + d) cs
    | none => none

def ofDigits? : List Char → Option Nat
  | [] => none
  | cs => appendDigits 0 cs

def unsigned? (bound : Nat) (cs : List Char) : Option Nat :=
  (ofDigits? (match cs with | '+' :: rest => rest | _ => cs)).filter (· < bound)

def signed64? (cs : List Char) : Option Int64 :=
  match cs with
  | '-' :: rest => ((ofDigits? rest).filter (· ≤ twoTo 63)).map fun n => Int64.ofInt (-(n : Int))
  | _ => (unsigned? (twoTo 63) cs).map fun n => Int64.ofNat n

def afterSign : List Char → List Char
  | '-' :: rest => rest
  | '+' :: rest => rest
  | cs => cs

def digits (n : Nat) : List Char := Nat.toDigits 10 n

def integerChars (n : Int) : List Char :=
  if n < 0 then '-' :: digits n.natAbs else digits n.natAbs

def hexDigits (n : Nat) : List Char := Nat.toDigits 16 n

def hexDigit? (c : Char) : Option Nat :=
  if '0' ≤ c ∧ c ≤ '9' then some (c.toNat - '0'.toNat)
  else if 'a' ≤ c ∧ c ≤ 'f' then some (c.toNat - 'a'.toNat + 10)
  else if 'A' ≤ c ∧ c ≤ 'F' then some (c.toNat - 'A'.toNat + 10)
  else none

def numeral? (base : Nat) (digits : List Char) : Option Nat :=
  if digits.isEmpty then none
  else digits.foldlM (fun n c => do
    let digit ← hexDigit? c
    if digit < base then some (n * base + digit) else none) 0

end Termbase.Number
