import Termbase.Settings.Yaml.Tag

namespace Termbase.Yaml

inductive Directive where
  | version
  | handle (name address : String)
  deriving DecidableEq, Repr

namespace Directive

def passBlanks (cursor : Cursor) : Cursor :=
  cursor.advance (cursor.rest.takeWhile isBlank).length

def versionLength : Nat := 9

def passNumber? (cursor : Cursor) : Option Cursor :=
  let (digits, cursor) := cursor.takeWhile fun c => (Number.digit? c).isSome
  if digits.isEmpty || decide (versionLength < digits.length) then none else some cursor

def version? (cursor : Cursor) : Option (Directive × Cursor) := do
  let cursor ← passNumber? (passBlanks cursor)
  if cursor.head? = some '.' then return (.version, ← passNumber? (cursor.step 1)) else none

def isHandle (handle : List Char) : Bool := handle.getLast? = some '!'

def handle? (cursor : Cursor) : Option (Directive × Cursor) := do
  let (name, cursor) ← Tag.handle? (passBlanks cursor)
  if !isHandle name then none
  else
    let (address, cursor) ← Tag.address? (passBlanks cursor)
    if endsWord cursor.head? then
      return (.handle (String.ofList name) (String.ofList address), cursor)
    else none

/-- Reads a directive after its percent sign, with the end of its line. One with another name is
as good as an empty handle. -/
def read? (cursor : Cursor) : Option (Directive × Cursor) := do
  let (name, cursor) := (cursor.step 1).takeWhile isWordChar
  if name.isEmpty || !endsWord cursor.head? then none
  else
    let (directive, cursor) ←
      match String.ofList name with
      | "YAML" => version? cursor
      | "TAG" => handle? cursor
      | _ => some (.handle "" "", cursor.toLineEnd)
    return (directive, (← cursor.finishLine?).passBreak)

end Directive

end Termbase.Yaml
