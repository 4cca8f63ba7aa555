import Termbase.Number.Shortest

namespace Termbase.Json

/-- A number as it is read: naturals below `2 ^ 64`, negative integers down to `-2 ^ 63`, and
doubles for everything else. -/
inductive Number where
  | natural (n : Nat)
  | negative (magnitude : Nat)
  | real (isNegative : Bool) (magnitude : Termbase.Number.Binary64)
  deriving DecidableEq, Repr

def Number.chars : Number → List Char
  | .natural n => Termbase.Number.digits n
  | .negative n => '-' :: Termbase.Number.digits n
  | .real isNegative x => x.chars isNegative

/-- A JSON value; the members of a map keep their order. -/
inductive Value where
  | null
  | boolean (b : Bool)
  | number (n : Number)
  | text (s : String)
  | sequence (items : List Value)
  | map (members : List (String × Value))

namespace Value

def integer (n : Int) : Value :=
  .number (if n < 0 then .negative n.natAbs else .natural n.natAbs)

def natural (n : Nat) : Value := .number (.natural n)

/-- The value of the last member with a name. -/
def field? (name : String) : Value → Option Value
  | .map members => members.reverse.lookup name
  | _ => none

end Value

end Termbase.Json
