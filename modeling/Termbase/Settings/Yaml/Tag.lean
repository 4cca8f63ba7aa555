import Termbase.Number.Digits
import Termbase.Settings.Yaml.Cursor

namespace Termbase.Yaml

/-- The type that a node is marked with, by a handle and what follows it. -/
structure Tag where
  handle : String
  suffix : String
  deriving DecidableEq, Repr

namespace Tag

def isAddressChar (c : Char) : Bool :=
  c.isAlphanum || "-#;/?:@&=+$,_.!~*\x27()[]%".contains c

def isSuffixChar (c : Char) : Bool := isAddressChar c && !isFlow c && c ≠ '!'

/-- The byte of two hexadecimal digits after a percent sign. -/
def byte? (cursor : Cursor) : Option (Nat × Cursor) :=
  match cursor.rest with
  | '%' :: a :: b :: _ => do
    return (16 * (← Number.hexDigit? a) + (← Number.hexDigit? b), cursor.step 3)
  | _ => none

/-- How many bytes follow the first byte of a character. -/
def following? (byte : Nat) : Option Nat :=
  if byte < 0x80 then some 0
  else if byte < 0xc0 then none
  else if byte < 0xe0 then some 1
  else if byte < 0xf0 then some 2
  else if byte < 0xf8 then some 3
  else none

/-- Reads so many bytes after others. They are put together as they are. -/
def bytes? : (n : Nat) → (code : Nat) → Cursor → Option (Nat × Cursor)
  | 0, code, cursor => some (code, cursor)
  | n + 1, code, cursor => do
    let (byte, cursor) ← byte? cursor
    if 0x80 ≤ byte ∧ byte < 0xc0 then bytes? n (256 * code + byte) cursor else none

def escaped? (cursor : Cursor) : Option (Char × Cursor) := do
  let (byte, cursor) ← byte? cursor
  let (code, cursor) ← bytes? (← following? byte) byte cursor
  if code.isValidChar then return (Char.ofNat code, cursor) else none

/-- Reads characters of a kind, at most `fuel` of them; bytes may stand for any of them. -/
def chars? (belongs : Char → Bool) :
    (fuel : Nat) → (done : List Char) → Cursor → Option (List Char × Cursor)
  | 0, done, cursor => some (done.reverse, cursor)
  | fuel + 1, done, cursor =>
    match cursor.head? with
    | none => some (done.reverse, cursor)
    | some c =>
      if !belongs c then some (done.reverse, cursor)
      else if c = '%' then do
        let (x, cursor) ← escaped? cursor
        chars? belongs fuel (x :: done) cursor
      else chars? belongs fuel (c :: done) (cursor.step 1)

def charsOf? (belongs : Char → Bool) (cursor : Cursor) : Option (List Char × Cursor) :=
  chars? belongs (cursor.rest.length + 1) [] cursor

/-- Reads a handle: an exclamation mark, with a name and another one if they follow. -/
def handle? (cursor : Cursor) : Option (List Char × Cursor) := do
  let '!' :: _ := cursor.rest | none
  let (name, cursor) := (cursor.step 1).takeWhile isWordChar
  if cursor.head? = some '!' then return ('!' :: name ++ ['!'], cursor.step 1)
  else return ('!' :: name, cursor)

/-- Reads a type after the start of its address between angle brackets. -/
def verbatim? (cursor : Cursor) : Option (Tag × Cursor) := do
  let (address, cursor) ← charsOf? isAddressChar cursor
  if cursor.head? = some '>' then return (⟨"", String.ofList address⟩, cursor.step 1) else none

/-- Reads a type by a handle. A handle with a name needs something after it. -/
def shorthand? (cursor : Cursor) : Option (Tag × Cursor) := do
  let (handle, cursor) ← handle? cursor
  let (suffix, cursor) ← charsOf? isSuffixChar cursor
  if 2 ≤ handle.length ∧ handle.getLast? = some '!' then
    if suffix.isEmpty then none
    else return (⟨String.ofList handle, String.ofList suffix⟩, cursor)
  else if handle.length = 1 ∧ suffix.isEmpty then return (⟨"", "!"⟩, cursor)
  else return (⟨"!", String.ofList (handle.tail ++ suffix)⟩, cursor)

def read? (isInFlow : Bool) (cursor : Cursor) : Option (Tag × Cursor) := do
  let (tag, cursor) ←
    if cursor.second? = some '<' then verbatim? (cursor.step 2) else shorthand? cursor
  if endsWord cursor.head? || isInFlow && cursor.head?.any isFlow then return (tag, cursor)
  else none

def address? (cursor : Cursor) : Option (List Char × Cursor) := do
  let c ← cursor.head?
  if c = '!' then
    let (rest, cursor) ← charsOf? isAddressChar (cursor.step 1)
    return (c :: rest, cursor)
  else if isSuffixChar c then charsOf? isAddressChar cursor
  else none

end Tag

def nodeName? (cursor : Cursor) : Option (String × Cursor) :=
  let (name, cursor) := (cursor.step 1).takeWhile fun c =>
    !isBlank c && !isBreak c && !isFlow c && c ≠ '\ufeff'
  if name.isEmpty then none else some (String.ofList name, cursor)

end Termbase.Yaml
