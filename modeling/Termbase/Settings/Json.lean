import Termbase.Json.Reader
import Termbase.Settings.Setting

namespace Termbase

/-- The value of a JSON number: an integer of 64 bits if it is one. -/
def Scalar.ofJsonNumber : Json.Number → Scalar
  | .natural n =>
    if n < Number.twoTo 63 then .integer (Int64.ofNat n)
    else .real (Number.Real.ofDecimal false n 0)
  | .negative n => .integer (Int64.ofInt (-(n : Int)))
  | .real isNegative x => .real (.finite isNegative x)

namespace Setting

mutual

def ofJson : Json.Value → Setting
  | .null => .nothing
  | .boolean b => .scalar (.boolean b)
  | .number n => .scalar (Scalar.ofJsonNumber n)
  | .text s => Setting.text s
  | .sequence items => .list (ofJsonItems items)
  | .map members => .table (ofJsonMembers members)

def ofJsonItems : List Json.Value → List Setting
  | [] => []
  | item :: items => ofJson item :: ofJsonItems items

def ofJsonMembers : List (String × Json.Value) → List (String × Setting)
  | [] => []
  | (name, value) :: members => (name, ofJson value) :: ofJsonMembers members

end

def readJson? (text : String) : Option (List (String × Setting)) :=
  match Json.readAll (Json.readValue Json.depthLimit) text with
  | .ok value => (ofJson value).members?
  | .error _ => none

end Setting

end Termbase
