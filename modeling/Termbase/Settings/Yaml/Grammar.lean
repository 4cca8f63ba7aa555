import Termbase.Settings.Yaml.Node

namespace Termbase.Yaml

/-- What is left to read, and what is known from what has been read. -/
structure Source where
  tokens : List Token
  /-- The addresses of the handles of types. -/
  handles : List (String × String)
  /-- The numbers of the nodes with names, of which the last with a name counts. -/
  names : List (String × Nat)
  /-- The nodes with names that are complete. -/
  nodes : List (Nat × Node)
  count : Nat

def Source.ofTokens (tokens : List Token) : Source := ⟨tokens, [], [], [], 0⟩

abbrev Grammar := StateT Source Option

namespace Grammar

def next? : Grammar (Option Token) := do return (← get).tokens.head?

def drop : Grammar Unit := modify fun source => { source with tokens := source.tokens.tail }

def isAt (tokens : List Token) : Grammar Bool := do
  match ← next? with
  | some token => return token ∈ tokens
  | none => return false

def take (token : Token) : Grammar Bool := do
  if ← isAt [token] then
    drop
    return true
  else return false

def expect (token : Token) : Grammar Unit := do
  if ← take token then return () else failure

def declare (name : String) : Grammar Nat := do
  let source ← get
  set { source with names := (name, source.count) :: source.names, count := source.count + 1 }
  return source.count

def define (number : Option Nat) (node : Node) : Grammar Node := do
  match number with
  | none => return node
  | some number =>
    modify fun source => { source with nodes := (number, node) :: source.nodes }
    return node

/-- The node with a name. One that is not complete is no value. -/
def named (name : String) : Grammar Node := do
  let source ← get
  match source.names.lookup name with
  | none => failure
  | some number => return (source.nodes.lookup number).getD .misfit

/-- A type with the address of its handle. A handle with a name needs one. -/
def resolve (tag : Tag) : Grammar Tag := do
  match (← get).handles.lookup tag.handle with
  | some address => return { tag with handle := address }
  | none =>
    if tag.handle = "!!" then return { tag with handle := Node.commonTypes }
    else if 2 ≤ tag.handle.length ∧ tag.handle.startsWith "!" ∧ tag.handle.endsWith "!" then failure
    else return tag

structure Marks where
  number : Option Nat
  tag : Option Tag

/-- Reads the name and the type of a node, in either order. -/
def marks : Grammar Marks := do
  match ← next? with
  | some (.anchor name) =>
    drop
    let number ← declare name
    match ← next? with
    | some (.tag tag) =>
      drop
      return ⟨some number, some (← resolve tag)⟩
    | _ => return ⟨some number, none⟩
  | some (.tag tag) =>
    drop
    let tag ← resolve tag
    match ← next? with
    | some (.anchor name) =>
      drop
      return ⟨some (← declare name), some tag⟩
    | _ => return ⟨none, some tag⟩
  | _ => return ⟨none, none⟩

/-- A node of which there is nothing but a name or a type. -/
def unwritten (marks : Marks) : Grammar Node :=
  if marks.number.isSome || marks.tag.isSome then
    define marks.number (Node.ofText true marks.tag "")
  else failure

/-- A node with the entries of nodes that are keys and values in turn. -/
def mapping (parts : List Node) : Grammar Node := StateT.lift (Node.ofParts? parts)

mutual

/-- Reads a node. Blocks are read where `inBlock` tells, and items without a start of their block
where `mayLackStart` tells. `fuel` bounds how deep rules call each other. -/
def node : (fuel : Nat) → (inBlock mayLackStart : Bool) → Grammar Node
  | 0, _, _ => failure
  | fuel + 1, inBlock, mayLackStart => do
    match ← next? with
    | some (.alias name) =>
      drop
      named name
    | _ =>
      let marks ← marks
      match ← next? with
      | some (.text isPlain s) =>
        drop
        define marks.number (Node.ofText isPlain marks.tag s)
      | some .flowSequenceStart =>
        drop
        define marks.number (.sequence (← flowItems fuel true))
      | some .flowMappingStart =>
        drop
        define marks.number (← mapping (← flowEntries fuel true))
      | some .item =>
        if mayLackStart then define marks.number (.sequence (← looseItems fuel))
        else unwritten marks
      | some .blockSequenceStart =>
        if inBlock then
          drop
          define marks.number (.sequence (← items fuel))
        else unwritten marks
      | some .blockMappingStart =>
        if inBlock then
          drop
          define marks.number (← mapping (← entries fuel))
        else unwritten marks
      | _ => unwritten marks

/-- Reads a node in a block, unless one of some tokens comes next. -/
def blockNode : (fuel : Nat) → (mayLackStart : Bool) → (ends : List Token) → Grammar Node
  | 0, _, _ => failure
  | fuel + 1, mayLackStart, ends => do
    if ← isAt ends then return .nothing else node fuel true mayLackStart

def flowNode : (fuel : Nat) → (ends : List Token) → Grammar Node
  | 0, _ => failure
  | fuel + 1, ends => do
    if ← isAt ends then return .nothing else node fuel false false

def items : (fuel : Nat) → Grammar (List Node)
  | 0 => failure
  | fuel + 1 => do
    if ← take .blockEnd then return []
    else
      expect .item
      let item ← blockNode fuel false [.item, .blockEnd]
      return item :: (← items fuel)

def looseItems : (fuel : Nat) → Grammar (List Node)
  | 0 => failure
  | fuel + 1 => do
    if ← take .item then
      let item ← blockNode fuel false [.item, .key, .value, .blockEnd]
      return item :: (← looseItems fuel)
    else return []

/-- Reads the entries of a block up to its end, as keys and values in turn. -/
def entries : (fuel : Nat) → Grammar (List Node)
  | 0 => failure
  | fuel + 1 => do
    if ← take .blockEnd then return []
    else
      let ends := [Token.key, .value, .blockEnd]
      let key ← if ← isAt [.value] then pure .nothing
        else
          expect .key
          blockNode fuel true ends
      let value ← if ← take .value then blockNode fuel true ends else pure .nothing
      return key :: value :: (← entries fuel)

def flowItems : (fuel : Nat) → (isFirst : Bool) → Grammar (List Node)
  | 0, _ => failure
  | fuel + 1, isFirst => do
    if ← take .flowSequenceEnd then return []
    else
      if !isFirst then expect .separator
      if ← take .flowSequenceEnd then return []
      else
        let item ← if ← take .key then flowPair fuel else node fuel false false
        return item :: (← flowItems fuel false)

/-- Reads a mapping of one entry after the mark of its key. What there is in place of a key does
not count. -/
def flowPair : (fuel : Nat) → Grammar Node
  | 0 => failure
  | fuel + 1 => do
    let key ← if ← isAt [.value, .separator, .flowSequenceEnd] then
        drop
        pure .nothing
      else node fuel false false
    let value ← flowValue fuel [.separator, .flowSequenceEnd]
    mapping [key, value]

/-- Reads the value of an entry between brackets, if a colon comes next. -/
def flowValue : (fuel : Nat) → (ends : List Token) → Grammar Node
  | 0, _ => failure
  | fuel + 1, ends => do
    if ← take .value then flowNode fuel ends else return .nothing

def flowEntries : (fuel : Nat) → (isFirst : Bool) → Grammar (List Node)
  | 0, _ => failure
  | fuel + 1, isFirst => do
    if ← take .flowMappingEnd then return []
    else
      if !isFirst then expect .separator
      let ends := [Token.separator, .flowMappingEnd]
      if ← take .key then
        let key ← flowNode fuel (.value :: ends)
        let value ← flowValue fuel ends
        return key :: value :: (← flowEntries fuel false)
      else if ← isAt [.value] then
        let value ← flowValue fuel ends
        return .nothing :: value :: (← flowEntries fuel false)
      else if ← take .flowMappingEnd then return []
      else
        let key ← node fuel false false
        return key :: .nothing :: (← flowEntries fuel false)

end

end Grammar

end Termbase.Yaml
