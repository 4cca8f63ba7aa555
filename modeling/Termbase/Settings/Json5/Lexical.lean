import Termbase.Settings.Scan
import Termbase.Text.WordPart

namespace Termbase.Json5

def isLineEnd (c : Char) : Bool :=
  c = '\n' || c = '\r' || c = '\u2028' || c = '\u2029'

/-- Separators of words, ends of lines and the byte order mark. -/
def isBlank (c : Char) : Bool :=
  c = ' ' || c = '\t' || c = '\x0b' || c = '\x0c' || c = '\xa0' || c = '\ufeff' ||
    c = '\u1680' || ('\u2000' ≤ c && c ≤ '\u200a') || c = '\u202f' || c = '\u205f' ||
    c = '\u3000' || isLineEnd c

def afterComment? : List Char → Option (List Char)
  | '*' :: '/' :: rest => some rest
  | _ :: rest => afterComment? rest
  | [] => none

/-- Passes over blanks and at most `fuel` comments. A comment that is not closed stays. -/
def skipComments : (fuel : Nat) → List Char → List Char
  | 0, s => s
  | fuel + 1, s =>
    match s.dropWhile isBlank with
    | '/' :: '/' :: rest => skipComments fuel (rest.dropWhile fun c => !isLineEnd c)
    | '/' :: '*' :: rest =>
      match afterComment? rest with
      | some rest => skipComments fuel rest
      | none => '/' :: '*' :: rest
    | s => s

def skip (s : List Char) : List Char := skipComments (s.length + 1) s

def escaped? : Char → Option Char
  | 'b' => some '\x08'
  | 'f' => some '\x0c'
  | 'n' => some '\n'
  | 'r' => some '\r'
  | 't' => some '\t'
  | 'v' => some '\x0b'
  | '0' => some '\x00'
  | c => if c = 'x' ∨ c = 'u' ∨ (Number.digit? c).isSome then none else some c

/-- Reads a text after its opening quote, `done` being its characters so far in reverse. A
backslash at the end of a line joins the next line. -/
def scanText (quote : Char) (done : List Char) : Scan String
  | [] => none
  | '\\' :: 'x' :: a :: b :: rest => do
    scanText quote ((← Scan.codePoint? [a, b]) :: done) rest
  | '\\' :: 'u' :: a :: b :: c :: d :: rest => do
    scanText quote ((← Scan.codePoint? [a, b, c, d]) :: done) rest
  | '\\' :: '\r' :: '\n' :: rest => scanText quote done rest
  | '\\' :: c :: rest =>
    if isLineEnd c then scanText quote done rest
    else do scanText quote ((← escaped? c) :: done) rest
  | c :: rest =>
    if c = quote then some (String.ofList done.reverse, rest)
    else if isLineEnd c then none
    else scanText quote (c :: done) rest

def isQuote (c : Char) : Bool := c = '"' || c = '\x27'

def text? : Scan String
  | [] => none
  | c :: rest => if isQuote c then scanText c [] rest else none

def startsName (c : Char) : Bool := Text.isLetter c || c = '$' || c = '_'

def isNameChar (c : Char) : Bool := Text.isWordPart c || c = '$' || c = '_'

/-- Reads a name, `done` being its characters so far in reverse. A code point stands for any
character. -/
def scanName (done : List Char) : Scan String
  | '\\' :: 'u' :: a :: b :: c :: d :: rest => do
    scanName ((← Scan.codePoint? [a, b, c, d]) :: done) rest
  | '\\' :: _ => none
  | c :: rest =>
    if if done.isEmpty then startsName c else isNameChar c then scanName (c :: done) rest
    else if done.isEmpty then none
    else some (String.ofList done.reverse, c :: rest)
  | [] => if done.isEmpty then none else some (String.ofList done.reverse, [])

def memberName? : Scan String := fun s =>
  if s.head?.any isQuote then text? s else scanName [] s

end Termbase.Json5
