import Termbase.Settings.Scan

namespace Termbase.KeyPath

def isNameChar (c : Char) : Bool := c.isAlphanum || c = ' ' || c = '_' || c = '-'

def afterItem? (s : List Char) : Option (List Char) :=
  let isBlank := fun c => c = ' ' || c = '\t'
  let s := s.dropWhile isBlank
  let s := if s.head? = some '-' then s.tail else s
  let digits := s.takeWhile fun c => (Number.digit? c).isSome
  match Number.numeral? 10 digits, (s.drop digits.length).dropWhile isBlank with
  | some n, ']' :: rest => if n < Number.twoTo 63 then some rest else none
  | _, _ => none

/-- Whether a text names members and items below a name, at most `fuel` of them. -/
def isBelow : (fuel : Nat) → List Char → Bool
  | 0, _ => false
  | _ + 1, [] => true
  | fuel + 1, '.' :: rest =>
    let name := rest.takeWhile isNameChar
    !name.isEmpty && isBelow fuel (rest.drop name.length)
  | fuel + 1, '[' :: rest =>
    match afterItem? rest with
    | some rest => isBelow fuel rest
    | none => false
  | _ + 1, _ => false

/-- The name that a key starts with, if the key names something below it. -/
def parent? (key : String) : Option String :=
  let cs := key.toList
  let name := cs.takeWhile isNameChar
  let rest := cs.drop name.length
  if name.isEmpty || rest.isEmpty || !isBelow (rest.length + 1) rest then none
  else some (String.ofList name)

end Termbase.KeyPath
