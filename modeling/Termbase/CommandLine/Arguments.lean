import Termbase.Entity
import Termbase.Term.TermMap

namespace Termbase

inductive Command where
  /-- Interns a term set, given as JSON text or by a dash for the standard input. -/
  | intern (terms : String)
  | store (entity : EntityId) (terms : String)
  | delete (entity : EntityId)
  | clean (ids : List RowId)
  | print (entities : List EntityId) (types : List TermType) (languages : List String)
  | stats
  deriving DecidableEq, Repr

inductive Invocation where
  | command (settingsPath : String) (command : Command)
  | version
  deriving DecidableEq, Repr

namespace Arguments

/-- The two names of an option. Every option takes a value. -/
structure OptionName where
  letter : Char
  name : String
  deriving DecidableEq, Repr

inductive Word where
  | operand
  /-- An option, with its value if the word holds it too. -/
  | option (option : OptionName) (value : Option String)
  | unknown

/-- The value after an equals sign, or all of the text if there is none. -/
def attached : List Char → String
  | '=' :: value => String.ofList value
  | value => String.ofList value

/-- Finds out what a word is. A dash alone is an operand. -/
def classify (options : List OptionName) (word : String) : Word :=
  match word.toList with
  | '-' :: '-' :: cs =>
    let name := String.ofList (cs.takeWhile (· ≠ '='))
    match options.find? fun option => option.name = name with
    | none => .unknown
    | some option =>
      match cs.dropWhile (· ≠ '=') with
      | [] => .option option none
      | value => .option option (some (attached value))
  | '-' :: letter :: rest =>
    match options.find? fun option => option.letter = letter with
    | none => .unknown
    | some option =>
      match rest with
      | [] => .option option none
      | value => .option option (some (attached value))
  | _ => .operand

def isValue (word : String) : Bool :=
  match word.toList with
  | '-' :: _ :: _ => false
  | _ => true

structure Sorted where
  operands : List String
  values : List (OptionName × String)

def Sorted.withOperand (sorted : Sorted) (operand : String) : Sorted :=
  { sorted with operands := operand :: sorted.operands }

def Sorted.withValue (sorted : Sorted) (option : OptionName) (value : String) : Sorted :=
  { sorted with values := (option, value) :: sorted.values }

/-- Sorts the words of a command. After two dashes every word is an operand. -/
def sort (options : List OptionName) : List String → Option Sorted
  | [] => some ⟨[], []⟩
  | [word] =>
    if word = "--" then some ⟨[], []⟩
    else
      match classify options word with
      | .operand => some ⟨[word], []⟩
      | .option option (some value) => some ⟨[], [(option, value)]⟩
      | _ => none
  | word :: next :: rest =>
    if word = "--" then some ⟨next :: rest, []⟩
    else
      match classify options word with
      | .operand => (sort options (next :: rest)).map fun sorted => sorted.withOperand word
      | .option option (some value) =>
        (sort options (next :: rest)).map fun sorted => sorted.withValue option value
      | .option option none =>
        if isValue next then (sort options rest).map fun sorted => sorted.withValue option next
        else none
      | .unknown => none

def typeOption : OptionName := ⟨'t', "type"⟩

def languageOption : OptionName := ⟨'l', "language"⟩

def settingsOption : OptionName := ⟨'c', "config"⟩

def operands? (words : List String) : Option (List String) :=
  (sort [] words).map Sorted.operands

def print? (words : List String) : Option Command := do
  let sorted ← sort [typeOption, languageOption] words
  let valuesOf (option : OptionName) : List String :=
    (sorted.values.filter fun value => value.1 = option).map Prod.snd
  let entities ← sorted.operands.mapM EntityId.ofText?
  let types ← (valuesOf typeOption).mapM TermType.ofName?
  let languages := valuesOf languageOption
  if entities.isEmpty || languages.isEmpty then none
  else some (.print entities types languages)

def command? (name : String) (words : List String) : Option Command :=
  match name with
  | "intern" => do
    let [terms] ← operands? words | none
    return .intern terms
  | "store" => do
    let [entity, terms] ← operands? words | none
    return .store (← EntityId.ofText? entity) terms
  | "delete" => do
    let [entity] ← operands? words | none
    return .delete (← EntityId.ofText? entity)
  | "clean" => do
    let ids ← (← operands? words).mapM fun word => Number.signed64? word.toList
    if ids.isEmpty then none else some (.clean ids)
  | "show" => print? words
  | "stats" => do
    let [] ← operands? words | none
    return .stats
  | _ => none

def defaultSettingsPath : String := "termstore.toml"

/-- Whether a word asks for the version. What follows the letter does not matter. -/
def asksVersion (word : String) : Bool := word = "--version" || word.startsWith "-V"

/-- Reads the words of a command line: the option for the settings, which may be given once, and a
command, to which all words after its name belong. The version is told as soon as it is asked
for. -/
def read? (settingsPath : Option String) : List String → Option Invocation
  | [] => none
  | [word] =>
    if asksVersion word then some .version
    else
      match classify [settingsOption] word with
      | .operand => (command? word []).map (.command (settingsPath.getD defaultSettingsPath))
      | _ => none
  | word :: next :: rest =>
    if asksVersion word then some .version
    else
      match classify [settingsOption] word with
      | .operand =>
        (command? word (next :: rest)).map (.command (settingsPath.getD defaultSettingsPath))
      | .option _ (some path) =>
        if settingsPath.isSome || path.isEmpty then none else read? (some path) (next :: rest)
      | .option _ none =>
        if settingsPath.isSome || next.isEmpty || !isValue next then none
        else read? (some next) rest
      | .unknown => none

def invocation? (words : List String) : Option Invocation := read? none words

end Arguments

end Termbase
