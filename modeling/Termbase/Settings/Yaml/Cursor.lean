namespace Termbase.Yaml

def isBlank (c : Char) : Bool := c = ' ' || c = '\t'

def isBreak (c : Char) : Bool := c = '\n' || c = '\r'

/-- Whether a character is a bracket, or separates what stands between brackets. -/
def isFlow (c : Char) : Bool :=
  c = ',' || c = '[' || c = ']' || c = '\x7b' || c = '\x7d'

def isWordChar (c : Char) : Bool := c.isAlphanum || c = '_' || c = '-'

/-- Whether a line ends before a character, of which there is none at the end of the text. -/
def endsLine (c : Option Char) : Bool := c.all isBreak

def endsWord (c : Option Char) : Bool := c.all fun c => isBlank c || isBreak c

structure Cursor where
  rest : List Char
  index : Nat
  line : Nat
  column : Nat
  /-- Whether nothing but blanks has come since the line started. -/
  isLeading : Bool
  deriving Repr

/-- What has been passed over within a line. -/
structure Gap where
  hasTab : Bool
  hasSpace : Bool
  deriving DecidableEq, Repr

namespace Cursor

def start (cs : List Char) : Cursor := ⟨cs, 0, 0, 0, true⟩

def head? (cursor : Cursor) : Option Char := cursor.rest.head?

def second? (cursor : Cursor) : Option Char := cursor.rest[1]?

def advance (cursor : Cursor) (n : Nat) : Cursor :=
  { cursor with
    rest := cursor.rest.drop n, index := cursor.index + n, column := cursor.column + n }

def pass (cursor : Cursor) : Cursor := cursor.advance 1

/-- Passes over characters that are no blanks. -/
def step (cursor : Cursor) (n : Nat) : Cursor := { cursor.advance n with isLeading := false }

def passBreak (cursor : Cursor) : Cursor :=
  match cursor.rest with
  | '\r' :: '\n' :: rest => ⟨rest, cursor.index + 2, cursor.line + 1, 0, true⟩
  | c :: rest => if isBreak c then ⟨rest, cursor.index + 1, cursor.line + 1, 0, true⟩ else cursor
  | [] => cursor

def takeWhile (cursor : Cursor) (belongs : Char → Bool) : List Char × Cursor :=
  match cursor.rest.takeWhile belongs with
  | [] => ([], cursor)
  | c :: cs => (c :: cs, cursor.step (cs.length + 1))

def toLineEnd (cursor : Cursor) : Cursor := (cursor.takeWhile fun c => !isBreak c).2

/-- Whether a document starts or ends at a place. -/
def isAtBorder (mark : Char) (cursor : Cursor) : Bool :=
  decide (cursor.column = 0) && decide (cursor.rest.take 3 = [mark, mark, mark]) &&
    endsWord cursor.rest[3]?

def isAtAnyBorder (cursor : Cursor) : Bool := cursor.isAtBorder '-' || cursor.isAtBorder '.'

/-- Passes over blanks and a comment, within a line. A comment needs a blank before it. -/
def passLine? (withTabs : Bool) (cursor : Cursor) : Option (Gap × Cursor) :=
  let blanks := cursor.rest.takeWhile fun c => c = ' ' || withTabs && c = '\t'
  let gap : Gap := ⟨blanks.contains '\t', blanks.contains ' '⟩
  let cursor := cursor.advance blanks.length
  if cursor.head? = some '#' then
    if blanks.isEmpty then none else some (gap, cursor.toLineEnd)
  else some (gap, cursor)

def finishLine? (cursor : Cursor) : Option Cursor := do
  let (_, cursor) ← cursor.passLine? true
  if endsLine cursor.head? then some cursor else none

/-- Passes over blanks, comments and ends of lines, and tells whether a line has ended. A tab
cannot indent what stands left of the margin of a block. `fuel` bounds the number of characters
and comments. -/
def passAll? (margin : Nat) : (fuel : Nat) → (hasBreak : Bool) → Cursor → Option (Bool × Cursor)
  | 0, _, _ => none
  | fuel + 1, hasBreak, cursor =>
    match cursor.head? with
    | some c =>
      if c = '\t' ∧ cursor.isLeading ∧ cursor.column + 1 < margin then do
        passAll? margin fuel hasBreak (← cursor.finishLine?)
      else if isBlank c then passAll? margin fuel hasBreak cursor.pass
      else if isBreak c then passAll? margin fuel true cursor.passBreak
      else if c = '#' then passAll? margin fuel hasBreak cursor.toLineEnd
      else some (hasBreak, cursor)
    | none => some (hasBreak, cursor)

def toToken? (margin : Nat) (cursor : Cursor) : Option (Bool × Cursor) :=
  cursor.passAll? margin (2 * cursor.rest.length + 1) false

def passSpaces : (fuel : Nat) → (hasBreak : Bool) → Cursor → Bool × Cursor
  | 0, hasBreak, cursor => (hasBreak, cursor)
  | fuel + 1, hasBreak, cursor =>
    match cursor.head? with
    | some c =>
      if c = ' ' then passSpaces fuel hasBreak cursor.pass
      else if isBreak c then passSpaces fuel true cursor.passBreak
      else if c = '#' then passSpaces fuel hasBreak cursor.toLineEnd
      else (hasBreak, cursor)
    | none => (hasBreak, cursor)

end Cursor

end Termbase.Yaml
