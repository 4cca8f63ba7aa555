import Termbase.Settings.Yaml.Directive

namespace Termbase.Yaml

/-- What the structure of a text is made of. Items and entries that are told by the lines they
stand on are in a block, those between brackets in a flow. -/
inductive Token where
  | directive (directive : Directive)
  | documentStart
  | documentEnd
  | blockSequenceStart
  | blockMappingStart
  | blockEnd
  | flowSequenceStart
  | flowSequenceEnd
  | flowMappingStart
  | flowMappingEnd
  | item
  | separator
  | key
  | value
  | alias (name : String)
  | anchor (name : String)
  | tag (tag : Tag)
  | text (isPlain : Bool) (s : String)
  deriving DecidableEq, Repr

/-- A column at which the lines of a block start, or would start. -/
structure Level where
  column : Nat
  isBlock : Bool
  deriving DecidableEq, Repr

namespace Level

/-- The first column that is inside all levels, of which the innermost comes first. -/
def margin : List Level → Nat
  | [] => 0
  | level :: _ => level.column + 1

def isInBlock (levels : List Level) : Bool := levels.head?.any Level.isBlock

/-- The levels that are not inside a margin, and the number of blocks among the others. -/
def leave (margin : Nat) : List Level → List Level × Nat
  | [] => ([], 0)
  | level :: levels =>
    if margin ≤ level.column then
      let (left, blocks) := leave margin levels
      (left, if level.isBlock then blocks + 1 else blocks)
    else (level :: levels, 0)

end Level

/-- A place where a key may start that is told by the colon after it. -/
structure KeyStart where
  isPossible : Bool
  /-- Whether nothing but a key can start there. -/
  isRequired : Bool
  tokens : Nat
  index : Nat
  line : Nat
  column : Nat
  deriving Repr

namespace KeyStart

def none : KeyStart := ⟨false, false, 0, 0, 0, 0⟩

def isMissing (key : KeyStart) : Bool := key.isPossible && key.isRequired

def dropped (key : KeyStart) : KeyStart := { key with isPossible := false }

/-- How many characters a key may have. -/
def longest : Nat := 1024

/-- Whether a place is too far from the start of a key for it to end there. -/
def isStale (cursor : Cursor) (key : KeyStart) : Bool :=
  key.isPossible && (decide (key.line < cursor.line) || decide (key.index + longest < cursor.index))

end KeyStart

/-- How far a text has been read: the place, and the tokens so far in reverse. -/
structure Reading where
  cursor : Cursor
  tokens : List Token
  levels : List Level
  /-- The last place for a key on each level of brackets, the innermost first. -/
  keys : List KeyStart
  depth : Nat
  allowsKey : Bool
  /-- A place at which a colon ends a key, whatever follows it. -/
  colonIndex : Option Nat
  /-- Whether a mapping between brackets has started by its bracket or mark. -/
  hasMapping : Bool
  /-- Whether a mapping between brackets has started by a colon alone. -/
  isImplicit : Bool

namespace Reading

def start (cs : List Char) : Reading :=
  ⟨Cursor.start cs, [], [], [KeyStart.none], 0, true, none, false, false⟩

def margin (reading : Reading) : Nat := Level.margin reading.levels

def isInFlow (reading : Reading) : Bool := decide (0 < reading.depth)

def goTo (reading : Reading) (cursor : Cursor) : Reading := { reading with cursor := cursor }

def add (reading : Reading) (token : Token) : Reading :=
  { reading with tokens := token :: reading.tokens }

def addAfter (reading : Reading) (n : Nat) (token : Token) : Reading :=
  let (later, earlier) := reading.tokens.splitAt (reading.tokens.length - n)
  { reading with tokens := later ++ token :: earlier }

def allowKey (reading : Reading) (isAllowed : Bool) : Reading :=
  { reading with allowsKey := isAllowed }

def key (reading : Reading) : KeyStart := reading.keys.head?.getD KeyStart.none

/-- Remembers a place for a key, if a key may stand here. -/
def saveKey (reading : Reading) : Reading :=
  if reading.allowsKey then
    let cursor := reading.cursor
    let isRequired := !reading.isInFlow && Level.isInBlock reading.levels &&
      decide (reading.margin = cursor.column + 1)
    let key : KeyStart :=
      ⟨true, isRequired, reading.tokens.length, cursor.index, cursor.line, cursor.column⟩
    { reading with keys := key :: reading.keys.tail }
  else reading

/-- Forgets the last place for a key, if there need not be one. -/
def dropKey? (reading : Reading) : Option Reading :=
  if reading.key.isMissing then none
  else some { reading with keys := reading.key.dropped :: reading.keys.tail }

/-- Forgets the places for keys that are too far away. Between brackets none is. -/
def dropStale? (reading : Reading) : Option Reading :=
  if reading.isInFlow then some reading
  else
    let isStale := KeyStart.isStale reading.cursor
    if reading.keys.any fun key => isStale key && key.isRequired then none
    else
      some { reading with
        keys := reading.keys.map fun key => if isStale key then key.dropped else key }

def leave (reading : Reading) (margin : Nat) : Reading :=
  if reading.isInFlow then reading
  else
    let (levels, blocks) := Level.leave margin reading.levels
    { reading with
      levels := levels, tokens := List.replicate blocks .blockEnd ++ reading.tokens }

/-- Starts a block at a column, unless it is there, by a token after the first `n` of them. -/
def enter (reading : Reading) (column : Nat) (n : Nat) (token : Token) : Reading :=
  if reading.isInFlow then reading
  else
    let levels :=
      if !Level.isInBlock reading.levels && reading.margin ≤ column + 1 then reading.levels.tail
      else reading.levels
    if Level.margin levels ≤ column then
      { reading.addAfter n token with levels := ⟨column, true⟩ :: levels }
    else { reading with levels := levels }

/-- Moves the margin by a column, once for each block. -/
def indent (reading : Reading) : Reading :=
  if !reading.isInFlow && Level.isInBlock reading.levels then
    { reading with levels := ⟨reading.margin, false⟩ :: reading.levels }
  else reading

def unindent (reading : Reading) : Reading :=
  { reading with levels := reading.levels.dropWhile fun level => !level.isBlock }

/-- Ends a mapping that has started by a colon alone. -/
def endImplicit (reading : Reading) : Reading :=
  if reading.isImplicit then
    { reading.add .flowMappingEnd with isImplicit := false, hasMapping := false }
  else reading

end Reading

end Termbase.Yaml
