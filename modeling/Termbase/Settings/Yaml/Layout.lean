import Termbase.Settings.Yaml.Block
import Termbase.Settings.Yaml.Plain
import Termbase.Settings.Yaml.Quoted
import Termbase.Settings.Yaml.Token

namespace Termbase.Yaml

namespace Reading

def directive? (reading : Reading) : Option Reading := do
  let reading ← (reading.leave 0).dropKey?
  let (directive, cursor) ← Directive.read? reading.cursor
  return ((reading.allowKey false).goTo cursor).add (.directive directive)

def border? (token : Token) (reading : Reading) : Option Reading := do
  let reading ← (reading.leave 0).dropKey?
  return ((reading.allowKey false).goTo (reading.cursor.step 3)).add token

/-- Reads the end of a document, which stands alone on its line. -/
def documentEnd? (reading : Reading) : Option Reading := do
  let reading ← border? .documentEnd reading
  return reading.goTo (← reading.cursor.finishLine?)

def deepest : Nat := 255

def open? (token : Token) (reading : Reading) : Option Reading := do
  let reading := reading.saveKey.indent
  if reading.depth = deepest then none
  else
    let (_, cursor) ← (reading.cursor.step 1).passLine? true
    return (({ reading with
      keys := KeyStart.none :: reading.keys
      depth := reading.depth + 1
      hasMapping := reading.hasMapping || token = Token.flowMappingStart }.allowKey true).goTo
        cursor).add token

/-- Reads a closing bracket. After it a colon ends a key between brackets. -/
def close? (token : Token) (reading : Reading) : Option Reading := do
  let reading ← reading.dropKey?
  let reading :=
    if reading.isInFlow then
      { reading with keys := reading.keys.tail, depth := reading.depth - 1 }
    else reading
  let reading := (reading.allowKey false).endImplicit
  let (_, cursor) ← (reading.cursor.step 1).passLine? true
  let reading :=
    if reading.isInFlow then { reading with colonIndex := some cursor.index } else reading
  return (reading.goTo cursor).add token

def separator? (reading : Reading) : Option Reading := do
  let reading := (((← reading.dropKey?).allowKey true).endImplicit)
  let (_, cursor) ← (reading.cursor.step 1).passLine? true
  return (reading.goTo cursor).add .separator

def item? (reading : Reading) : Option Reading := do
  if reading.isInFlow || !reading.allowsKey then none
  else
    let start := reading.cursor
    let reading := reading.enter start.column reading.tokens.length .blockSequenceStart
    let (gap, cursor) ← (start.step 1).passLine? true
    if gap.hasTab && cursor.head? = some '-' && endsWord cursor.second? then none
    else
      let reading :=
        if cursor.head?.any fun c => isBreak c || isFlow c then reading.indent else reading
      return (((← reading.dropKey?).allowKey true).goTo cursor).add .item

/-- Reads the mark of a key, which has a space or the end of a line after it. -/
def keyMark? (reading : Reading) : Option Reading := do
  let start := reading.cursor
  if !reading.isInFlow && !reading.allowsKey then none
  else
    let reading :=
      if reading.isInFlow then { reading with hasMapping := true }
      else reading.enter start.column reading.tokens.length .blockMappingStart
    let reading := (← reading.dropKey?).allowKey (!reading.isInFlow)
    let after := start.step 1
    let (_, cursor) := after.passSpaces (2 * after.rest.length + 1) false
    if !after.head?.any (fun c => c = ' ' || isBreak c) || cursor.head? = some '\t' then none
    else return (reading.goTo cursor).add .key

/-- Passes over a colon. A word after it needs more than a tab in front. -/
def passColon? (cursor : Cursor) : Option Cursor :=
  let after := cursor.step 1
  if after.head? = some '\t' then do
    let (gap, after) ← after.passLine? true
    if !gap.hasSpace && after.head?.any isWordChar then none else some after
  else some after

/-- Turns what has been read from the last place for a key on into a key. -/
def endKey? (line : Nat) (reading : Reading) : Option Reading :=
  let key := reading.key
  let reading := reading.addAfter key.tokens .key
  if reading.isImplicit && key.line < line then none
  else
    let reading :=
      if reading.isImplicit then reading.addAfter key.tokens .flowMappingStart else reading
    let reading := (reading.enter key.column key.tokens .blockMappingStart).indent
    some ({ reading with keys := key.dropped :: reading.keys.tail }.allowKey false)

def value? (reading : Reading) : Option Reading := do
  let start := reading.cursor
  let reading := { reading with isImplicit := reading.isInFlow && !reading.hasMapping }
  let reading := reading.goTo (← passColon? start)
  let reading ←
    if reading.key.isPossible then reading.endKey? start.line
    else if reading.isInFlow then
      let reading := if reading.isImplicit then reading.add .flowMappingStart else reading
      some (reading.allowKey false)
    else if reading.allowsKey then
      let reading := reading.enter start.column reading.tokens.length .blockMappingStart
      some (reading.indent.allowKey true)
    else none
  return reading.add .value

/-- Reads the name of a node, or another node by its name. -/
def name? (token : String → Token) (reading : Reading) : Option Reading := do
  let reading := reading.saveKey.allowKey false
  let (name, cursor) ← nodeName? reading.cursor
  return (reading.goTo cursor).add (token name)

def tag? (reading : Reading) : Option Reading := do
  let reading := reading.saveKey.allowKey false
  let (tag, cursor) ← Tag.read? reading.isInFlow reading.cursor
  return (reading.goTo cursor).add (.tag tag)

def blockText? (isFolded : Bool) (reading : Reading) : Option Reading := do
  let reading := (reading.saveKey.allowKey true).unindent
  let (s, cursor) ← Block.text? isFolded reading.margin reading.cursor
  return (reading.goTo cursor).add (.text false s)

/-- Reads a text in quotes. After it a colon ends a key between brackets. -/
def quoted? (isSingle : Bool) (reading : Reading) : Option Reading := do
  let reading := reading.saveKey.allowKey false
  let (s, cursor) ← Quoted.read? isSingle reading.isInFlow reading.margin reading.cursor
  let (hasBreak, cursor) ← cursor.toToken? reading.margin
  let reading := reading.allowKey (hasBreak && !reading.isInFlow)
  return ({ reading with colonIndex := some cursor.index }.goTo cursor).add (.text false s)

def plain? (reading : Reading) : Option Reading := do
  let reading := (reading.saveKey.allowKey false).unindent
  let (s, cursor) ← Plain.read? reading.isInFlow reading.margin reading.cursor
  return ((reading.allowKey cursor.isLeading).goTo cursor).add (.text true s)

def isColon (reading : Reading) : Bool :=
  let next := reading.cursor.second?
  endsWord next ||
    reading.isInFlow && (next.any isFlow || reading.colonIndex = some reading.cursor.index)

def token? (c : Char) (reading : Reading) : Option Reading :=
  let isLone := endsWord reading.cursor.second?
  match c with
  | '[' => reading.open? .flowSequenceStart
  | '\x7b' => reading.open? .flowMappingStart
  | ']' => reading.close? .flowSequenceEnd
  | '\x7d' => reading.close? .flowMappingEnd
  | ',' => reading.separator?
  | '-' => if isLone then reading.item? else reading.plain?
  | '?' => if isLone then reading.keyMark? else reading.plain?
  | ':' => if reading.isColon then reading.value? else reading.plain?
  | '*' => reading.name? .alias
  | '&' => reading.name? .anchor
  | '!' => reading.tag?
  | '|' => if reading.isInFlow then reading.plain? else reading.blockText? false
  | '>' => if reading.isInFlow then reading.plain? else reading.blockText? true
  | '\x27' => reading.quoted? true
  | '"' => reading.quoted? false
  | '%' => none
  | '@' => none
  | '\x60' => none
  | _ => reading.plain?

def next? (c : Char) (reading : Reading) : Option Reading :=
  let cursor := reading.cursor
  if cursor.column = 0 ∧ c = '%' then reading.directive?
  else if cursor.isAtBorder '-' then reading.border? .documentStart
  else if cursor.isAtBorder '.' then reading.documentEnd?
  else if cursor.column + 1 < reading.margin then none
  else reading.token? c

/-- Goes on to the next token and ends the blocks before it. -/
def toToken? (reading : Reading) : Option Reading := do
  let (hasBreak, cursor) ← reading.cursor.toToken? reading.margin
  let reading := reading.allowKey (reading.allowsKey || hasBreak && !reading.isInFlow)
  let reading ← (reading.goTo cursor).dropStale?
  return reading.leave (cursor.column + 1)

def finish? (reading : Reading) : Option (List Token) :=
  if reading.keys.any KeyStart.isMissing then none else some (reading.leave 0).tokens.reverse

def finishAll? : (fuel : Nat) → Reading → Option (List Token)
  | 0, _ => none
  | fuel + 1, reading => do
    let reading ← reading.toToken?
    match reading.cursor.head? with
    | none => reading.finish?
    | some c => finishAll? fuel (← reading.next? c)

end Reading

/-- The tokens of a text, which ends with the first zero character. -/
def tokens? (text : String) : Option (List Token) :=
  let cs := text.toList.takeWhile (· ≠ '\x00')
  Reading.finishAll? (cs.length + 1) (Reading.start cs)

end Termbase.Yaml
