import Termbase.Settings.Toml.Lexical
import Termbase.Settings.Toml.Moment
import Termbase.Settings.Toml.Number
import Termbase.Settings.Toml.Table

namespace Termbase.Toml

def isWordChar (c : Char) : Bool := isBareKeyChar c || c = '+' || c = '.'

def plain? : Scan Scalar := fun s =>
  match moment? s with
  | some (moment, rest) => some (.text moment, rest)
  | none =>
    let word := s.takeWhile isWordChar
    (word? word).map fun value => (value, s.drop word.length)

def pair? (value : Scan Setting) : Scan (List String × Setting) := fun s => do
  let (key, rest) ← key? s
  let '=' :: rest := skipBlanks rest | none
  let (setting, rest) ← value (skipBlanks rest)
  return ((key, setting), rest)

def membersOf (entries : List (List String × Setting)) : Option Members :=
  entries.foldlM (fun members entry => Members.put entry.2 entry.1 members) []

/-- Reads a value, with lists and tables up to a depth in it. -/
def value? : (depth : Nat) → Scan Setting
  | 0, _ => none
  | depth + 1, s =>
    match s with
    | [] => none
    | c :: rest =>
      if c = '"' ∨ c = apostrophe then (text? s).map fun r => (Setting.text r.1, r.2)
      else if c = '[' then
        (Scan.items skipSpace ']' true (value? depth) s.length rest).map fun r => (.list r.1, r.2)
      else if c = '\x7b' then do
        let (entries, rest) ←
          Scan.items skipBlanks '\x7d' false (pair? (value? depth)) s.length rest
        return (.table (Members.toSettings (← membersOf entries)), rest)
      else (plain? s).map fun r => (.scalar r.1, r.2)

def depthLimit : Nat := 80

/-- What has been read, and the names in the header of the table that is being read. -/
structure Progress where
  root : Members
  header : List String

def header? (s : List Char) : Option (List String × List Char) := do
  let (names, rest) ← key? (skipBlanks s)
  let ']' :: rest := skipBlanks rest | none
  return (names, rest)

/-- Reads what a line holds but for its comment. -/
def line? (progress : Progress) : Scan Progress := fun s =>
  match s with
  | [] => some (progress, [])
  | '[' :: '[' :: rest => do
    let (names, rest) ← header? rest
    let ']' :: rest := rest | none
    return (⟨← Members.atLast Members.openListed names progress.root, names⟩, rest)
  | '[' :: rest => do
    let (names, rest) ← header? rest
    return (⟨← Members.atLast Members.openTable names progress.root, names⟩, rest)
  | c :: _ =>
    if c = '#' ∨ c = '\n' ∨ c = '\r' then some (progress, s)
    else do
      let ((key, setting), rest) ← pair? (value? depthLimit) s
      return (⟨← Members.within (Members.put setting key) progress.header progress.root,
        progress.header⟩, rest)

def lines? : (fuel : Nat) → Progress → List Char → Option Progress
  | 0, _, _ => none
  | fuel + 1, progress, s => do
    let (progress, rest) ← line? progress (skipBlanks s)
    match skipComment (skipBlanks rest) with
    | [] => return progress
    | rest => lines? fuel progress (← lineEnd? rest)

def afterMark : List Char → List Char
  | '\ufeff' :: rest => rest
  | s => s

def read? (text : String) : Option (List (String × Setting)) := do
  let s := afterMark text.toList
  let progress ← lines? (s.length + 1) ⟨[], []⟩ s
  return Members.toSettings progress.root

end Termbase.Toml
