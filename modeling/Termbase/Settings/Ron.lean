import Termbase.Settings.Ron.Lexical
import Termbase.Settings.Ron.Number
import Termbase.Settings.Setting

namespace Termbase.Ron

/-- What reads the parts of a value. -/
structure Inner where
  content : Scan Setting
  item : Scan Setting

def never {α : Type} : Scan α := fun _ => none

def member? (name : Scan String) (value : Scan Setting) : Scan (String × Setting) := fun s => do
  let (name, rest) ← name s
  let ':' :: rest := skip rest | none
  let (setting, rest) ← value (skip rest)
  return ((name, setting), rest)

def items? {α : Type} (closing : Char) (item : Scan α) : Scan (List α) := fun s =>
  Scan.items skip closing true item (s.length + 1) s

def list? (closing : Char) (inner : Inner) : Scan Setting := fun s =>
  (items? closing inner.item s).map fun r => (.list r.1, r.2)

def table? (closing : Char) (name : Scan String) (inner : Inner) : Scan Setting := fun s =>
  (items? closing (member? name inner.item) s).map fun r => (.table r.1, r.2)

def hasFields (s : List Char) : Bool :=
  match name? (skip s) with
  | none => false
  | some (_, rest) => (skip rest).head? = some ':'

/-- Reads what stands in parentheses: fields, or a list. -/
def parenthesised? (inner : Inner) : Scan Setting := fun s =>
  if hasFields s then table? ')' name? inner s else list? ')' inner s

/-- Reads what there is after the word for it. The parentheses around it may be left out if
`isImplicit` tells. -/
def option? (isImplicit : Bool) (inner : Inner) : Scan Setting := fun s =>
  match skip s with
  | '(' :: rest => do
    let (setting, rest) ← inner.content (skip rest)
    match skip rest with
    | ')' :: rest => return (setting, rest)
    | ',' :: rest =>
      let ')' :: rest := skip rest | none
      return (setting, rest)
    | _ => none
  | rest => if isImplicit then inner.content rest else none

/-- Reads a value after a name, which does not count. -/
def named? (inner : Inner) : Scan Setting := fun s =>
  match skip s with
  | '(' :: rest => parenthesised? inner rest
  | rest => some (.nothing, rest)

def bracketed? (inner : Inner) : Scan Setting
  | '(' :: rest => parenthesised? inner rest
  | '[' :: rest => list? ']' inner rest
  | '\x7b' :: rest => table? '\x7d' text? inner rest
  | _ => none

def scalar? : Scan Setting := fun s =>
  match text? s with
  | some (text, rest) => some (Setting.text text, rest)
  | none =>
    if s.head?.any startsNumber then (number? s).map fun r => (.scalar r.1, r.2) else none

/-- Reads a value whose parts, if it may have any, are read by others. -/
def valueOf? (isImplicit : Bool) (inner : Option Inner) : Scan Setting := fun s =>
  let word := s.takeWhile isNameChar
  let rest := s.drop word.length
  match String.ofList word with
  | "true" => some (.scalar (.boolean true), rest)
  | "false" => some (.scalar (.boolean false), rest)
  | "None" => some (.nothing, rest)
  | "inf" => some (.scalar (.real (.infinite false)), rest)
  | "NaN" => some (.scalar (.real .nan), rest)
  | "Some" => do option? isImplicit (← inner) rest
  | _ =>
    if s.take 2 = ['(', ')'] then some (.nothing, s.drop 2)
    else
      match name? s with
      | some (_, rest) =>
        if (skip rest).head? = some '(' then do named? (← inner) rest
        else some (.nothing, rest)
      | none =>
        if s.head?.any fun c => c = '(' || c = '[' || c = '\x7b' then do bracketed? (← inner) s
        else scalar? s

/-- Reads a value with others in it. A list or a table takes up two of the `room` for others, one
for itself and one for what it holds; what there may be takes up one. -/
def value? (isImplicit : Bool) : (room : Nat) → Scan Setting
  | 0 => valueOf? isImplicit none
  | 1 => valueOf? isImplicit (some ⟨value? isImplicit 0, never⟩)
  | room + 2 => valueOf? isImplicit (some ⟨value? isImplicit (room + 1), value? isImplicit room⟩)

def roomLimit : Nat := 128

def allowances : List String := ["unwrap_newtypes", "implicit_some", "unwrap_variant_newtypes"]

/-- Passes over words with blanks and comments around them. -/
def expect? : List String → List Char → Option (List Char)
  | [], s => some (skip s)
  | word :: words, s =>
    let s := skip s
    if s.take word.length = word.toList then expect? words (s.drop word.length) else none

def allowed? : (fuel : Nat) → Scan (List String)
  | 0, _ => none
  | fuel + 1, s => do
    let (name, rest) ← name? s
    if name ∉ allowances then none
    else
      match skip rest with
      | ',' :: rest =>
        let rest := skip rest
        if rest.head?.any isNameChar then
          let (names, rest) ← allowed? fuel rest
          return (name :: names, rest)
        else return ([name], rest)
      | rest => return ([name], rest)

def opening? : (fuel : Nat) → Scan (List String)
  | 0, _ => none
  | fuel + 1, s =>
    let s := skip s
    if s.head? = some '#' then do
      let (names, rest) ← allowed? s.length (← expect? ["#", "!", "[", "enable", "("] s)
      let (more, rest) ← opening? fuel (← expect? [")", "]"] rest)
      return (names ++ more, rest)
    else some ([], s)

def read? (text : String) : Option (List (String × Setting)) := do
  let (names, s) ← opening? (text.length + 1) text.toList
  let (setting, rest) ← value? (names.contains "implicit_some") roomLimit s
  if (skip rest).isEmpty then setting.members? else none

end Termbase.Ron
