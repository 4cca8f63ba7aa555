import Termbase.Settings.Scalar

namespace Termbase.Json5

/-- The infinities and what is no number. A plus sign cannot stand in front of them. -/
def namedNumbers : List (String × Number.Real) :=
  [("Infinity", .infinite false), ("-Infinity", .infinite true), ("NaN", .nan), ("-NaN", .nan)]

def isPadded : List Char → Bool
  | '0' :: c :: _ => (Number.digit? c).isSome
  | _ => false

def isReal (cs : List Char) : Bool := cs.any fun c => c = '.' || c = 'e' || c = 'E'

/-- The value of a number with a fraction or an exponent, which is not too large for a double. -/
def real? (cs : List Char) : Option Number.Real :=
  (Number.Real.ofText? (String.ofList cs)).filter fun x =>
    match x with
    | .finite _ _ => true
    | _ => false

def decimal? (cs : List Char) : Option Scalar :=
  if isPadded (Number.afterSign cs) then none
  else if isReal cs then (real? cs).map .real
  else (Number.signed64? cs).map .integer

/-- The value of a hexadecimal number of 32 bits after its mark. -/
def hexadecimal? (digits : List Char) : Option Scalar :=
  ((Number.numeral? 16 digits).filter (· < Number.twoTo 32)).map fun n => .integer (Int64.ofNat n)

/-- The value of a number; a hexadecimal one has no sign. -/
def number? (cs : List Char) : Option Scalar :=
  match namedNumbers.lookup (String.ofList cs) with
  | some x => some (.real x)
  | none =>
    match cs with
    | '0' :: 'x' :: digits => hexadecimal? digits
    | '0' :: 'X' :: digits => hexadecimal? digits
    | cs => decimal? cs

end Termbase.Json5
