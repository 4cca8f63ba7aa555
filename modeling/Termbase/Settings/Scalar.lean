import Termbase.Number.Real

namespace Termbase

inductive Scalar where
  | boolean (b : Bool)
  | integer (n : Int64)
  | real (x : Number.Real)
  | text (s : String)
  deriving DecidableEq, Repr

namespace Scalar

/-- The value that a plain text stands for: a truth value, an integer or a decimal number if it is
written like one. -/
def ofText (s : String) : Scalar :=
  if s.toLower = "true" then .boolean true
  else if s.toLower = "false" then .boolean false
  else
    match Number.signed64? s.toList with
    | some n => .integer n
    | none =>
      match Number.Real.ofText? s with
      | some x => .real x
      | none => .text s

def toText : Scalar → String
  | .boolean b => if b then "true" else "false"
  | .integer n => String.ofList (Number.integerChars n.toInt)
  | .real x => x.text
  | .text s => s

/-- The number below `2 ^ 64` that a text stands for; words for yes and no count as one and
zero. -/
def countOfText? (s : String) : Option Nat :=
  if s.toLower ∈ ["true", "on", "yes"] then some 1
  else if s.toLower ∈ ["false", "off", "no"] then some 0
  else Number.unsigned? (Number.twoTo 64) s.toList

def toCount? : Scalar → Option Nat
  | .boolean b => some (if b then 1 else 0)
  | .integer n => if n < 0 then none else some n.toInt.toNat
  | .real x => some x.toNatural64
  | .text s => countOfText? s

end Scalar

end Termbase
