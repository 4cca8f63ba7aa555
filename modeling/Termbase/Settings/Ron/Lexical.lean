import Termbase.Settings.Scan

namespace Termbase.Ron

def isBlank (c : Char) : Bool := c = ' ' || c = '\t' || c = '\n' || c = '\r'

/-- The text after a comment that others may stand in, `depth` of which are open. -/
def afterNested? (depth : Nat) : List Char → Option (List Char)
  | '*' :: '/' :: rest =>
    match depth with
    | 0 => some rest
    | depth + 1 => afterNested? depth rest
  | '/' :: '*' :: rest => afterNested? (depth + 1) rest
  | _ :: rest => afterNested? depth rest
  | [] => none

/-- Passes over blanks and at most `fuel` comments. A comment that is not closed stays. -/
def skipComments : (fuel : Nat) → List Char → List Char
  | 0, s => s
  | fuel + 1, s =>
    match s.dropWhile isBlank with
    | '/' :: '/' :: rest => skipComments fuel (rest.dropWhile (· ≠ '\n'))
    | '/' :: '*' :: rest =>
      match afterNested? 0 rest with
      | some rest => skipComments fuel rest
      | none => '/' :: '*' :: rest
    | s => s

def skip (s : List Char) : List Char := skipComments (s.length + 1) s

def escaped? : Char → Option Char
  | '0' => some '\x00'
  | 'n' => some '\n'
  | 'r' => some '\r'
  | 't' => some '\t'
  | '\\' => some '\\'
  | '"' => some '"'
  | '\x27' => some '\x27'
  | _ => none

def codeLength : Nat := 6

def code? : (fuel : Nat) → Scan (List Char)
  | _, '\x7d' :: rest => some ([], rest)
  | fuel + 1, c :: rest => (code? fuel rest).map fun r => (c :: r.1, r.2)
  | _, _ => none

def escape? : Scan Char
  | 'x' :: a :: b :: rest => (Scan.codePoint? [a, b]).map fun c => (c, rest)
  | 'u' :: '\x7b' :: rest => do
    let (digits, rest) ← code? codeLength rest
    return (← Scan.codePoint? digits, rest)
  | c :: rest => (escaped? c).map fun c => (c, rest)
  | [] => none

def quoted? : (fuel : Nat) → (done : List Char) → Scan String
  | 0, _, _ => none
  | _ + 1, _, [] => none
  | fuel + 1, done, c :: rest =>
    if c = '"' then some (String.ofList done.reverse, rest)
    else if c = '\\' then do
      let (x, rest) ← escape? rest
      quoted? fuel (x :: done) rest
    else quoted? fuel (c :: done) rest

/-- Reads a text without escapes up to a quote and as many marks as it has been opened with. -/
def scanRaw (marks : Nat) (done : List Char) : Scan String
  | [] => none
  | c :: rest =>
    if c = '"' ∧ rest.take marks = List.replicate marks '#' then
      some (String.ofList done.reverse, rest.drop marks)
    else scanRaw marks (c :: done) rest

/-- Reads a text without escapes after the letter that announces it. -/
def raw? : Scan String := fun s =>
  let marks := (s.takeWhile (· = '#')).length
  match s.drop marks with
  | '"' :: rest => scanRaw marks [] rest
  | _ => none

def character? : Scan String := fun s => do
  let (c, rest) ←
    match s with
    | '\\' :: rest => escape? rest
    | '\x27' :: _ => none
    | c :: rest => some (c, rest)
    | [] => none
  let '\x27' :: rest := rest | none
  return (String.ofList [c], rest)

def text? : Scan String
  | '"' :: rest => quoted? (rest.length + 1) [] rest
  | 'r' :: rest => raw? rest
  | '\x27' :: rest => character? rest
  | _ => none

def isNameChar (c : Char) : Bool := c.isAlphanum || c = '_'

/-- Whether a character may stand in a name after the mark for names of any form. -/
def isRawNameChar (c : Char) : Bool := isNameChar c || c = '.' || c = '+' || c = '-'

def startsName (c : Char) : Bool := c.isAlpha || c = '_'

/-- Reads a name. Without a mark it may not be followed by a character that needs one, and a text
without escapes is none. -/
def name? : Scan String
  | 'r' :: '"' :: _ => none
  | 'r' :: '#' :: rest =>
    let name := rest.takeWhile isRawNameChar
    if name.isEmpty then none else some (String.ofList name, rest.drop name.length)
  | s =>
    let name := s.takeWhile isNameChar
    let rest := s.drop name.length
    if !s.head?.any startsName || rest.head?.any isRawNameChar then none
    else some (String.ofList name, rest)

end Termbase.Ron
