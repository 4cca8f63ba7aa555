import Termbase.Settings.Scan

namespace Termbase.Toml

def isBareKeyChar (c : Char) : Bool :=
  ('a' ≤ c && c ≤ 'z') || ('A' ≤ c && c ≤ 'Z') || ('0' ≤ c && c ≤ '9') || c = '_' || c = '-'

def isBlank (c : Char) : Bool := c = ' ' || c = '\t'

def skipBlanks (s : List Char) : List Char := s.dropWhile isBlank

/-- Passes over the end of a line, which has to be there. -/
def lineEnd? : List Char → Option (List Char)
  | '\n' :: rest => some rest
  | '\r' :: '\n' :: rest => some rest
  | _ => none

/-- Whether a character may stand in a comment, or as itself in a text. -/
def isPlain (c : Char) : Bool := c = '\t' || (decide (32 ≤ c.toNat) && c.toNat ≠ 127)

def skipComment : List Char → List Char
  | '#' :: rest => rest.dropWhile isPlain
  | s => s

/-- Passes over blanks, comments and ends of at most `fuel` lines. -/
def skipLines : (fuel : Nat) → List Char → List Char
  | 0, s => s
  | fuel + 1, s =>
    let s := skipComment (skipBlanks s)
    match lineEnd? s with
    | some rest => skipLines fuel rest
    | none => s

def skipSpace (s : List Char) : List Char := skipLines (s.length + 1) s

def shortEscape? : Char → Option Char
  | 'b' => some '\x08'
  | 't' => some '\t'
  | 'n' => some '\n'
  | 'f' => some '\x0c'
  | 'r' => some '\r'
  | '"' => some '"'
  | '\\' => some '\\'
  | _ => none

/-- Reads a quoted text after its opening quote, `done` being its characters so far in reverse. -/
def scanText (done : List Char) : List Char → Option (String × List Char)
  | [] => none
  | '"' :: rest => some (String.ofList done.reverse, rest)
  | '\\' :: 'u' :: a :: b :: c :: d :: rest => do
    scanText ((← Scan.codePoint? [a, b, c, d]) :: done) rest
  | '\\' :: 'U' :: a :: b :: c :: d :: e :: f :: g :: h :: rest => do
    scanText ((← Scan.codePoint? [a, b, c, d, e, f, g, h]) :: done) rest
  | '\\' :: c :: rest => do scanText ((← shortEscape? c) :: done) rest
  | c :: rest => if isPlain c then scanText (c :: done) rest else none

/-- Reads a text of several lines after its opening quotes. A backslash at the end of a line joins
the line to what follows; `joining` tells that the blanks after one are passed over. Two more
quotes may stand before the closing ones. -/
def scanLongText (joining : Bool) (done : List Char) : List Char → Option (String × List Char)
  | [] => none
  | '"' :: '"' :: '"' :: '"' :: '"' :: rest =>
    some (String.ofList ('"' :: '"' :: done).reverse, rest)
  | '"' :: '"' :: '"' :: '"' :: rest => some (String.ofList ('"' :: done).reverse, rest)
  | '"' :: '"' :: '"' :: rest => some (String.ofList done.reverse, rest)
  | '\\' :: 'u' :: a :: b :: c :: d :: rest => do
    scanLongText false ((← Scan.codePoint? [a, b, c, d]) :: done) rest
  | '\\' :: 'U' :: a :: b :: c :: d :: e :: f :: g :: h :: rest => do
    scanLongText false ((← Scan.codePoint? [a, b, c, d, e, f, g, h]) :: done) rest
  | '\\' :: c :: rest =>
    match shortEscape? c with
    | some x => scanLongText false (x :: done) rest
    | none =>
      if c = '\n' ∨ (lineEnd? (skipBlanks (c :: rest))).isSome then scanLongText true done rest
      else none
  | '\r' :: '\n' :: rest =>
    if joining then scanLongText true done rest else scanLongText false ('\n' :: done) rest
  | c :: rest =>
    if joining && (isBlank c || c = '\n') then scanLongText true done rest
    else if c = '\n' || isPlain c then scanLongText false (c :: done) rest
    else none

/-- The mark of a text without escapes. -/
def apostrophe : Char := '\x27'

def scanLiteral (s : List Char) : Option (String × List Char) :=
  let text := s.takeWhile fun c => isPlain c && c ≠ apostrophe
  match s.drop text.length with
  | c :: rest => if c = apostrophe then some (String.ofList text, rest) else none
  | [] => none

def scanLongLiteral (done : List Char) : List Char → Option (String × List Char)
  | [] => none
  | '\x27' :: '\x27' :: '\x27' :: '\x27' :: '\x27' :: rest =>
    some (String.ofList (apostrophe :: apostrophe :: done).reverse, rest)
  | '\x27' :: '\x27' :: '\x27' :: '\x27' :: rest =>
    some (String.ofList (apostrophe :: done).reverse, rest)
  | '\x27' :: '\x27' :: '\x27' :: rest => some (String.ofList done.reverse, rest)
  | '\r' :: '\n' :: rest => scanLongLiteral ('\n' :: done) rest
  | c :: rest => if c = '\n' || isPlain c then scanLongLiteral (c :: done) rest else none

def afterLineEnd (s : List Char) : List Char := (lineEnd? s).getD s

def text? : Scan String
  | '"' :: '"' :: '"' :: rest => scanLongText false [] (afterLineEnd rest)
  | '"' :: rest => scanText [] rest
  | '\x27' :: '\x27' :: '\x27' :: rest => scanLongLiteral [] (afterLineEnd rest)
  | '\x27' :: rest => scanLiteral rest
  | _ => none

def name? : Scan String
  | '"' :: rest => scanText [] rest
  | '\x27' :: rest => scanLiteral rest
  | s =>
    let name := s.takeWhile isBareKeyChar
    if name.isEmpty then none else some (String.ofList name, s.drop name.length)

/-- Reads the names of a key, with points between them. `fuel` bounds their number. -/
def names? : (fuel : Nat) → Scan (List String)
  | 0, _ => none
  | fuel + 1, s => do
    let (name, rest) ← name? s
    match skipBlanks rest with
    | '.' :: rest => do
      let (names, rest) ← names? fuel (skipBlanks rest)
      return (name :: names, rest)
    | _ => return ([name], rest)

def key? : Scan (List String) := fun s => names? (s.length + 1) s

end Termbase.Toml
