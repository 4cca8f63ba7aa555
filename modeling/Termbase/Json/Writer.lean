import Termbase.Json.Value

namespace Termbase.Json

/-- A character inside a JSON string: quotes, backslashes and controls are escaped, all else is
written as it is. -/
def escapedChar (c : Char) : List Char :=
  if c = '"' then ['\\', '"']
  else if c = '\\' then ['\\', '\\']
  else if c = '\x08' then ['\\', 'b']
  else if c = '\t' then ['\\', 't']
  else if c = '\n' then ['\\', 'n']
  else if c = '\x0c' then ['\\', 'f']
  else if c = '\r' then ['\\', 'r']
  else if c.toNat < 16 then ['\\', 'u', '0', '0', '0'] ++ Termbase.Number.hexDigits c.toNat
  else if c.toNat < 32 then ['\\', 'u', '0', '0'] ++ Termbase.Number.hexDigits c.toNat
  else [c]

def textChars (s : String) : List Char :=
  ('"' :: s.toList.flatMap escapedChar) ++ ['"']

def commaJoined : List (List Char) → List Char
  | [] => []
  | [part] => part
  | part :: rest => part ++ ',' :: commaJoined rest

def sequenceChars (items : List (List Char)) : List Char :=
  '[' :: (commaJoined items ++ [']'])

def mapChars (members : List (String × List Char)) : List Char :=
  '\x7b' :: (commaJoined (members.map fun m => textChars m.1 ++ ':' :: m.2) ++ ['\x7d'])

def newLine (level : Nat) : List Char := '\n' :: List.replicate (2 * level) ' '

/-- Written parts on lines of their own between brackets; nothing goes between the brackets when
there is no part. -/
def bracketed (level : Nat) (opening closing : Char) : List (List Char) → List Char
  | [] => [opening, closing]
  | parts =>
    opening :: (commaJoined (parts.map fun part => newLine (level + 1) ++ part) ++
      newLine level ++ [closing])

def booleanChars (b : Bool) : List Char :=
  if b then ['t', 'r', 'u', 'e'] else ['f', 'a', 'l', 's', 'e']

def nullChars : List Char := ['n', 'u', 'l', 'l']

namespace Value

def compactChars : Value → List Char
  | .null => nullChars
  | .boolean b => booleanChars b
  | .number n => n.chars
  | .text s => textChars s
  | .sequence items => sequenceChars (items.attach.map fun ⟨item, _⟩ => compactChars item)
  | .map members => mapChars (members.attach.map fun ⟨m, _⟩ => (m.1, compactChars m.2))
decreasing_by
  all_goals simp_wf
  all_goals rename_i h
  · have := List.sizeOf_lt_of_mem h
    omega
  · have := List.sizeOf_lt_of_mem h
    have : sizeOf m.2 < sizeOf m := by cases m; simp only [Prod.mk.sizeOf_spec]; omega
    omega

def prettyChars (level : Nat) : Value → List Char
  | .null => nullChars
  | .boolean b => booleanChars b
  | .number n => n.chars
  | .text s => textChars s
  | .sequence items =>
    bracketed level '[' ']' (items.attach.map fun ⟨item, _⟩ => prettyChars (level + 1) item)
  | .map members =>
    bracketed level '\x7b' '\x7d' (members.attach.map fun ⟨m, _⟩ =>
      textChars m.1 ++ [':', ' '] ++ prettyChars (level + 1) m.2)
termination_by value => sizeOf value
decreasing_by
  all_goals simp_wf
  all_goals rename_i h
  · have := List.sizeOf_lt_of_mem h
    omega
  · have := List.sizeOf_lt_of_mem h
    have : sizeOf m.2 < sizeOf m := by cases m; simp only [Prod.mk.sizeOf_spec]; omega
    omega

def compact (value : Value) : String := String.ofList value.compactChars

def pretty (value : Value) : String := String.ofList (value.prettyChars 0)

end Value

end Termbase.Json
