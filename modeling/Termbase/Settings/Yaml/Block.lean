import Termbase.Number.Digits
import Termbase.Settings.Yaml.Cursor

namespace Termbase.Yaml.Block

/-- What becomes of the ends of lines at the end of a text. -/
inductive Chomping where
  | clip
  | strip
  | keep
  deriving DecidableEq, Repr

def Chomping.ofChar? : Char → Option Chomping
  | '+' => some .keep
  | '-' => some .strip
  | _ => none

/-- Reads a digit by which a text is indented further, which is not zero; there may be none. -/
def indentation? (cursor : Cursor) : Option (Nat × Cursor) :=
  match cursor.head?.bind Number.digit? with
  | none => some (0, cursor)
  | some 0 => none
  | some n => some (n, cursor.step 1)

def chomping (cursor : Cursor) : Option Chomping × Cursor :=
  match cursor.head?.bind Chomping.ofChar? with
  | some chomping => (some chomping, cursor.step 1)
  | none => (none, cursor)

/-- Reads the mark of the end and the indentation after a bar, in either order. -/
def header? (cursor : Cursor) : Option (Chomping × Nat × Cursor) := do
  let (first, cursor) := chomping cursor
  let (indentation, cursor) ← indentation? cursor
  match first with
  | some chomping => return (chomping, indentation, cursor)
  | none =>
    let (second, cursor) := chomping cursor
    return (second.getD .clip, indentation, cursor)

/-- Passes over lines without text, at most `fuel` of them, and over the indentation of the next
one. Gives the number of lines. -/
def passIndentation (column : Nat) : (fuel : Nat) → (breaks : Nat) → Cursor → Nat × Cursor
  | 0, breaks, cursor => (breaks, cursor)
  | fuel + 1, breaks, cursor =>
    let spaces := (cursor.rest.takeWhile (· = ' ')).length
    let cursor := cursor.advance (min spaces (column - cursor.column))
    if cursor.head?.any isBreak then passIndentation column fuel (breaks + 1) cursor.passBreak
    else (breaks, cursor)

/-- Passes over lines without text, at most `fuel` of them, and over the spaces on the next one.
Gives the number of lines and the most spaces on one of them. -/
def findIndentation : (fuel : Nat) → (breaks most : Nat) → Cursor → Nat × Nat × Cursor
  | 0, breaks, most, cursor => (breaks, most, cursor)
  | fuel + 1, breaks, most, cursor =>
    let cursor := cursor.advance (cursor.rest.takeWhile (· = ' ')).length
    let most := max most cursor.column
    if cursor.head?.any isBreak then findIndentation fuel (breaks + 1) most cursor.passBreak
    else (breaks, most, cursor)

/-- The lines of a text, as far as they have been read, in reverse. -/
structure Lines where
  done : List Char
  /-- Whether the last line that has been read has ended. -/
  hasBreak : Bool
  /-- How many lines without text have come since. -/
  breaks : Nat
  isIndented : Bool

/-- What stands between the last line and the next one. A folded text has a space for the end of a
line, unless one of the lines starts with a blank. -/
def Lines.joint (isFolded isIndented : Bool) (lines : Lines) : List Char :=
  let ends := List.replicate lines.breaks '\n'
  if isFolded && lines.hasBreak && !lines.isIndented && !isIndented then
    if lines.breaks = 0 then [' '] else ends
  else if lines.hasBreak then '\n' :: ends
  else ends

def read (isFolded : Bool) (column : Nat) : (fuel : Nat) → Lines → Cursor → Lines × Cursor
  | 0, lines, cursor => (lines, cursor)
  | fuel + 1, lines, cursor =>
    if cursor.column ≠ column || cursor.rest.isEmpty || column = 0 && cursor.isAtAnyBorder then
      (lines, cursor)
    else
      let isIndented := cursor.head?.any isBlank
      let (content, after) := cursor.takeWhile fun c => !isBreak c
      let done := content.reverse ++ lines.joint isFolded isIndented ++ lines.done
      if after.rest.isEmpty then (⟨done, false, 0, isIndented⟩, after)
      else
        let (breaks, after) := passIndentation column (after.rest.length + 1) 0 after.passBreak
        read isFolded column fuel ⟨done, true, breaks, isIndented⟩ after

def ending (chomping : Chomping) (column : Nat) (lines : Lines) (cursor : Cursor) : List Char :=
  match chomping with
  | .strip => []
  | .clip => last
  | .keep => List.replicate lines.breaks '\n' ++ last
where
  /-- The end of the last line. At the end of the text a line ends that is indented. -/
  last : List Char :=
    (if cursor.rest.isEmpty && decide (max column 1 ≤ cursor.column) then ['\n'] else []) ++
      (if lines.hasBreak then ['\n'] else [])

/-- A text without lines, after which `breaks` lines have ended besides its first. -/
def blank (chomping : Chomping) (isOneLine hasBreak : Bool) (breaks : Nat) : String :=
  let first := if hasBreak then "\n" else ""
  match chomping with
  | .strip => ""
  | .clip => if isOneLine then "" else first
  | .keep =>
    if isOneLine then ""
    else if breaks = 0 then first
    else String.ofList (List.replicate breaks '\n')

/-- Reads a text that keeps its lines, or folds them, after the mark for it. -/
def text? (isFolded : Bool) (margin : Nat) (start : Cursor) : Option (String × Cursor) := do
  let (chomping, indentation, cursor) ← header? (start.step 1)
  let opening ← cursor.finishLine?
  let hasBreak := opening.head?.any isBreak
  let cursor := opening.passBreak
  if cursor.head? = some '\t' then none
  else
    let fuel := cursor.rest.length + 1
    let (breaks, column, cursor) :=
      if 0 < indentation then
        let column := margin - 1 + indentation
        let (breaks, cursor) := passIndentation column fuel 0 cursor
        (breaks, column, cursor)
      else
        let (breaks, most, cursor) := findIndentation fuel 0 0 cursor
        (breaks, max most margin, cursor)
    if cursor.rest.isEmpty then
      return (blank chomping (decide (cursor.line = start.line)) hasBreak breaks, cursor)
    else if cursor.column < column ∧ margin ≤ cursor.column then none
    else
      let (lines, cursor) := read isFolded column fuel ⟨[], false, breaks, false⟩ cursor
      return (String.ofList (ending chomping column lines cursor ++ lines.done).reverse, cursor)

end Termbase.Yaml.Block
