import Termbase.Settings.Json5.Lexical
import Termbase.Settings.Json5.Number
import Termbase.Settings.Setting

namespace Termbase.Json5

def word? (cs : List Char) : Option Setting :=
  if cs = "null".toList then some .nothing
  else if cs = "true".toList then some (.scalar (.boolean true))
  else if cs = "false".toList then some (.scalar (.boolean false))
  else (number? cs).map .scalar

def isWordChar (c : Char) : Bool := isNameChar c || c = '+' || c = '-' || c = '.'

def member? (value : Scan Setting) : Scan (String × Setting) := fun s => do
  let (name, rest) ← memberName? s
  let ':' :: rest := skip rest | none
  let (setting, rest) ← value (skip rest)
  return ((name, setting), rest)

/-- Reads a value, with lists and tables up to a depth in it. -/
def value? : (depth : Nat) → Scan Setting
  | 0, _ => none
  | depth + 1, s =>
    match s with
    | '[' :: rest =>
      (Scan.items skip ']' true (value? depth) s.length rest).map fun r => (.list r.1, r.2)
    | '\x7b' :: rest =>
      (Scan.items skip '\x7d' true (member? (value? depth)) s.length rest).map fun r =>
        (.table r.1, r.2)
    | s =>
      if s.head?.any isQuote then (text? s).map fun r => (Setting.text r.1, r.2)
      else
        let word := s.takeWhile isWordChar
        (word? word).map fun setting => (setting, s.drop word.length)

def read? (text : String) : Option (List (String × Setting)) := do
  let s := skip text.toList
  let (setting, rest) ← value? (s.length + 1) s
  if (skip rest).isEmpty then setting.members? else none

end Termbase.Json5
