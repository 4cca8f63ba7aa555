import Termbase.Number.Real
import Termbase.Settings.Yaml.Token

namespace Termbase.Yaml

/-- A value of a text: of the numbers with a fraction, their spelling. -/
inductive Node where
  | nothing
  /-- What is not of the type that it is marked with. -/
  | misfit
  | boolean (b : Bool)
  | integer (n : Int64)
  | real (s : String)
  | text (s : String)
  | sequence (items : List Node)
  | mapping (entries : List (Node × Node))

namespace Node

def based? (base : Nat) (cs : List Char) : Option Int64 :=
  match cs with
  | '-' :: digits =>
    ((Number.numeral? base digits).filter (· ≤ Number.twoTo 63)).map fun n =>
      Int64.ofInt (-(n : Int))
  | '+' :: digits => natural? digits
  | digits => natural? digits
where
  natural? (digits : List Char) : Option Int64 :=
    ((Number.numeral? base digits).filter (· < Number.twoTo 63)).map Int64.ofNat

def realNames : List String :=
  [".inf", ".Inf", ".INF", "+.inf", "+.Inf", "+.INF", "-.inf", "-.Inf", "-.INF", ".nan", "NaN",
    ".NAN"]

def isReal (s : String) : Bool := s ∈ realNames || (Number.Real.ofText? s).isSome

/-- An integer, in hexadecimal digits after `0x`, in octal ones after `0o`, or in decimal ones. -/
def integer? (s : String) : Option Int64 :=
  match s.toList with
  | '0' :: 'x' :: digits => based? 16 digits
  | '0' :: 'o' :: digits => based? 8 digits
  | '+' :: digits => Number.signed64? digits
  | digits => Number.signed64? digits

def ofPlain (s : String) : Node :=
  match integer? s with
  | some n => .integer n
  | none =>
    if s ∈ ["", "~", "null"] then .nothing
    else if s = "true" then .boolean true
    else if s = "false" then .boolean false
    else if isReal s then .real s
    else .text s

/-- What a text without quotes stands for that is marked with one of the types which all texts
know. -/
def ofMarked (type s : String) : Node :=
  match type with
  | "bool" =>
    if s = "true" then .boolean true else if s = "false" then .boolean false else .misfit
  | "int" =>
    match Number.signed64? s.toList with
    | some n => .integer n
    | none => .misfit
  | "float" => if isReal s then .real s else .misfit
  | "null" => if s = "~" ∨ s = "null" then .nothing else .misfit
  | _ => .text s

/-- The address that the types start with which all texts know. -/
def commonTypes : String := "tag:yaml.org,2002:"

/-- What a text stands for. A type counts only if there are no quotes. -/
def ofText (isPlain : Bool) (tag : Option Tag) (s : String) : Node :=
  match isPlain, tag with
  | false, _ => .text s
  | true, none => ofPlain s
  | true, some tag => if tag.handle = commonTypes then ofMarked tag.suffix s else .text s

mutual

def isSame : Node → Node → Bool
  | .nothing, .nothing => true
  | .misfit, .misfit => true
  | .boolean a, .boolean b => a == b
  | .integer a, .integer b => a == b
  | .real a, .real b => a == b
  | .text a, .text b => a == b
  | .sequence xs, .sequence ys => isSameItems xs ys
  | .mapping xs, .mapping ys => isSameEntries xs ys
  | _, _ => false

def isSameItems : List Node → List Node → Bool
  | [], [] => true
  | x :: xs, y :: ys => isSame x y && isSameItems xs ys
  | _, _ => false

def isSameEntry : Node × Node → Node × Node → Bool
  | (key, value), (key', value') => isSame key key' && isSame value value'

def isSameEntries : List (Node × Node) → List (Node × Node) → Bool
  | [], [] => true
  | x :: xs, y :: ys => isSameEntry x y && isSameEntries xs ys
  | _, _ => false

end

/-- Whether a node has become a key. A misfit has not: the next node takes its place. -/
def isKey : Node → Bool
  | .misfit => false
  | _ => true

/-- The entries of nodes that are keys and values in turn. No key comes twice. -/
def entries? (key : Node) (done : List (Node × Node)) : List Node → Option (List (Node × Node))
  | [] => some done.reverse
  | node :: nodes =>
    if !key.isKey then entries? node done nodes
    else if done.any fun entry => isSame entry.1 key then none
    else entries? .misfit ((key, node) :: done) nodes

def ofParts? (parts : List Node) : Option Node := (entries? .misfit [] parts).map .mapping

end Node

end Termbase.Yaml
