import Termbase.Settings.Yaml.Folding

namespace Termbase.Yaml.Plain

/-- Whether a text without quotes ends before a character and the one after it: a colon ends it
that a word ends after, and between brackets every separator. -/
def stops (isInFlow : Bool) (c : Char) (next : Option Char) : Bool :=
  (c = ':' && (endsWord next || isInFlow && next.any isFlow)) || isInFlow && isFlow c

/-- How many characters a text without quotes goes on for without a blank. -/
def runLength (isInFlow : Bool) : List Char → Nat
  | [] => 0
  | c :: rest =>
    if isBlank c || isBreak c || stops isInFlow c rest.head? then 0
    else runLength isInFlow rest + 1

/-- Passes over blanks and ends of lines, `fuel` of them at most. A tab left of the margin has
nothing but a comment after it. -/
def passGap? (margin : Nat) : (fuel : Nat) → Folding → Cursor → Option (Folding × Cursor)
  | 0, _, _ => none
  | fuel + 1, folding, cursor =>
    match cursor.head? with
    | none => some (folding, cursor)
    | some c =>
      if isBreak c then
        passGap? margin fuel (folding.endLine (!cursor.isLeading)) cursor.passBreak
      else if isBlank c then
        if !cursor.isLeading then passGap? margin fuel (folding.addBlank c) cursor.pass
        else if c = '\t' ∧ cursor.column < margin then do
          passGap? margin fuel folding (← cursor.finishLine?)
        else passGap? margin fuel folding cursor.pass
      else some (folding, cursor)

def addRun (isInFlow : Bool) (folding : Folding) (cursor : Cursor) : Folding × Cursor :=
  match runLength isInFlow cursor.rest with
  | 0 => (folding, cursor)
  | n + 1 =>
    let folding := folding.join cursor.isLeading
    ({ folding with done := (cursor.rest.take (n + 1)).reverse ++ folding.done },
      cursor.step (n + 1))

/-- Reads at most `fuel` parts of a text without quotes. Outside brackets it ends with the first
line that does not reach the margin. -/
def parts? (isInFlow : Bool) (margin : Nat) :
    (fuel : Nat) → Folding → Cursor → Option (Folding × Cursor)
  | 0, _, _ => none
  | fuel + 1, folding, cursor =>
    if cursor.isAtAnyBorder || cursor.head? = some '#' then some (folding, cursor)
    else if isInFlow && cursor.head? = some '-' && cursor.second?.any isFlow then none
    else
      let (folding, cursor) := addRun isInFlow folding cursor
      if !cursor.head?.any fun c => isBlank c || isBreak c then some (folding, cursor)
      else do
        let (folding, cursor) ← passGap? margin (2 * cursor.rest.length + 1) folding cursor
        if !isInFlow && cursor.column < margin then some (folding, cursor)
        else parts? isInFlow margin fuel folding cursor

def read? (isInFlow : Bool) (margin : Nat) (start : Cursor) : Option (String × Cursor) :=
  if isInFlow && start.column < margin then none
  else do
    let (folding, cursor) ← parts? isInFlow margin (start.rest.length + 1) Folding.empty start
    if folding.done.isEmpty then none else return (folding.text, cursor)

end Termbase.Yaml.Plain
