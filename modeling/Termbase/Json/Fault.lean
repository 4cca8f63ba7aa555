import Termbase.Json.Value
import Termbase.Text.Quoted

namespace Termbase.Json

inductive Found where
  | null
  | boolean (b : Bool)
  | number (n : Number)
  | text (s : String)
  | sequence
  | map
  deriving DecidableEq, Repr

inductive Fault where
  | unfinished
  | malformed
  | unexpected (found : Found) (expected : String)
  | outOfRange (n : Int) (expected : String)
  | unknownVariant (name : String) (known : List String)
  | noAlternative (choice : String)
  | missingField (name : String)
  | duplicateField (name : String)
  | wrongLength (length : Nat) (expected : String)
  /-- A value of the right shape that its reader refuses. -/
  | refused (reason : String)
  deriving DecidableEq, Repr

def named (name : String) : String := "`" ++ name ++ "`"

def Found.describe : Found → String
  | .null => "null"
  | .boolean b => "boolean " ++ named (if b then "true" else "false")
  | .number (.real isNegative x) =>
    "floating point " ++ named (String.ofList (Number.real isNegative x).chars)
  | .number n => "integer " ++ named (String.ofList n.chars)
  | .text s => "string " ++ Text.quoted s
  | .sequence => "sequence"
  | .map => "map"

/-- The message of a fault in the data; texts that end early or are not JSON have none. -/
def Fault.message? : Fault → Option String
  | .unfinished => none
  | .malformed => none
  | .unexpected found expected =>
    some ("invalid type: " ++ found.describe ++ ", expected " ++ expected)
  | .outOfRange n expected =>
    some ("invalid value: integer " ++ named (String.ofList (Termbase.Number.integerChars n)) ++
      ", expected " ++ expected)
  | .unknownVariant name known =>
    some ("unknown variant " ++ named name ++ ", expected one of " ++
      ", ".intercalate (known.map named))
  | .noAlternative choice =>
    some ("data did not match any variant of untagged enum " ++ choice)
  | .missingField name => some ("missing field " ++ named name)
  | .duplicateField name => some ("duplicate field " ++ named name)
  | .wrongLength length expected =>
    some ("invalid length " ++ String.ofList (Termbase.Number.digits length) ++ ", expected " ++
      expected)
  | .refused reason => some reason

end Termbase.Json
