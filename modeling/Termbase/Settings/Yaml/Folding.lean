import Termbase.Settings.Yaml.Cursor

namespace Termbase.Yaml

/-- A text that is put together from the parts of its lines, in reverse. -/
structure Folding where
  done : List Char
  /-- The blanks since, if no line has ended. -/
  blanks : List Char
  /-- Whether a line has ended since. -/
  hasBreak : Bool
  /-- How many more lines have ended. -/
  breaks : Nat
  deriving Repr

namespace Folding

def empty : Folding := ⟨[], [], false, 0⟩

def ofDone (done : List Char) : Folding := ⟨done, [], false, 0⟩

def addBlank (folding : Folding) (c : Char) : Folding :=
  { folding with blanks := c :: folding.blanks }

/-- Ends a line. Blanks at its end do not count. -/
def endLine (isFirst : Bool) (folding : Folding) : Folding :=
  if isFirst then { folding with blanks := [], hasBreak := true }
  else { folding with breaks := folding.breaks + 1 }

/-- What stands for the ends of lines: a space for one, and for more an end of a line for each but
the first. -/
def joint (hasBreak : Bool) (breaks : Nat) : List Char :=
  if hasBreak && breaks = 0 then [' '] else List.replicate breaks '\n'

def join (isLeading : Bool) (folding : Folding) : Folding :=
  if isLeading then ofDone (joint folding.hasBreak folding.breaks ++ folding.done)
  else { folding with done := folding.blanks ++ folding.done, blanks := [] }

def text (folding : Folding) : String := String.ofList folding.done.reverse

end Folding

end Termbase.Yaml
