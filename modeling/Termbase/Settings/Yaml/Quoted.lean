import Termbase.Settings.Scan
import Termbase.Settings.Yaml.Folding

namespace Termbase.Yaml.Quoted

def escaped? : Char → Option Char
  | '0' => some '\x00'
  | 'a' => some '\x07'
  | 'b' => some '\x08'
  | 't' => some '\t'
  | '\t' => some '\t'
  | 'n' => some '\n'
  | 'v' => some '\x0b'
  | 'f' => some '\x0c'
  | 'r' => some '\r'
  | 'e' => some '\x1b'
  | ' ' => some ' '
  | '"' => some '"'
  | '/' => some '/'
  | '\\' => some '\\'
  | 'N' => some '\x85'
  | '_' => some '\xa0'
  | 'L' => some '\u2028'
  | 'P' => some '\u2029'
  | _ => none

/-- How many digits of a code point follow a character after a backslash. -/
def codeLength? : Char → Option Nat
  | 'x' => some 2
  | 'u' => some 4
  | 'U' => some 8
  | _ => none

def escape? (cursor : Cursor) : Option (Char × Cursor) := do
  let c ← cursor.head?
  match codeLength? c with
  | some n =>
    let digits := cursor.rest.tail.take n
    if digits.length = n then return (← Scan.codePoint? digits, cursor.step (n + 1)) else none
  | none => return (← escaped? c, cursor.step 1)

def mark (isSingle : Bool) : Char := if isSingle then '\x27' else '"'

/-- Reads characters up to a blank, the end of a line or the mark that ends the text, and tells
whether a backslash has joined the next line. `fuel` bounds their number. -/
def run? (isSingle : Bool) :
    (fuel : Nat) → (done : List Char) → Cursor → Option (Bool × List Char × Cursor)
  | 0, _, _ => none
  | fuel + 1, done, cursor =>
    match cursor.rest with
    | [] => some (false, done, cursor)
    | c :: rest =>
      if isBlank c || isBreak c then some (false, done, cursor)
      else if isSingle && c = '\x27' && rest.head? = some '\x27' then
        run? isSingle fuel (c :: done) (cursor.step 2)
      else if c = mark isSingle then some (false, done, cursor)
      else if !isSingle && c = '\\' then
        if rest.head?.any isBreak then some (true, done, (cursor.step 1).passBreak)
        else do
          let (x, cursor) ← escape? (cursor.step 1)
          run? isSingle fuel (x :: done) cursor
      else run? isSingle fuel (c :: done) (cursor.step 1)

def passGap? (margin : Nat) :
    (fuel : Nat) → (isLeading : Bool) → Folding → Cursor → Option (Bool × Folding × Cursor)
  | 0, _, _, _ => none
  | fuel + 1, isLeading, folding, cursor =>
    match cursor.head? with
    | none => some (isLeading, folding, cursor)
    | some c =>
      if isBreak c then
        passGap? margin fuel true (folding.endLine (!isLeading)) cursor.passBreak
      else if isBlank c then
        if !isLeading then passGap? margin fuel isLeading (folding.addBlank c) cursor.pass
        else if c = '\t' ∧ cursor.column + 1 < margin then none
        else passGap? margin fuel isLeading folding cursor.pass
      else some (isLeading, folding, cursor)

/-- Reads a text after its first mark, at most `fuel` parts of it. Its lines have to reach the
margin, and no document may start or end in it. -/
def parts? (isSingle : Bool) (margin : Nat) :
    (fuel : Nat) → Folding → Cursor → Option (String × Cursor)
  | 0, _, _ => none
  | fuel + 1, folding, cursor =>
    if cursor.isAtAnyBorder || cursor.rest.isEmpty || cursor.column + 1 < margin then none
    else do
      let (isJoined, done, cursor) ← run? isSingle (cursor.rest.length + 1) folding.done cursor
      let folding := { folding with done := done }
      if cursor.head? = some (mark isSingle) then return (folding.text, cursor.step 1)
      else
        let (isLeading, folding, cursor) ←
          passGap? margin (cursor.rest.length + 1) isJoined folding cursor
        parts? isSingle margin fuel (folding.join isLeading) cursor

/-- Whether the text may be followed by a character, on the line it ends on. -/
def mayPrecede (isInFlow isOneLine : Bool) (c : Option Char) : Bool :=
  endsLine c ||
    match c with
    | some ':' => isInFlow || isOneLine
    | some c => isInFlow && (c = ',' || c = ']' || c = '\x7d')
    | none => true

def read? (isSingle isInFlow : Bool) (margin : Nat) (start : Cursor) : Option (String × Cursor) := do
  let (text, cursor) ←
    parts? isSingle margin (start.rest.length + 1) Folding.empty (start.step 1)
  let (_, cursor) ← cursor.passLine? true
  if mayPrecede isInFlow (decide (start.line = cursor.line)) cursor.head? then
    return (text, cursor)
  else none

end Termbase.Yaml.Quoted
