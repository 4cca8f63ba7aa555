import Termbase.Entity
import Termbase.Json.Reader
import Termbase.Record.Level

namespace Termbase

/-- How deeply the expressions of a statement may be nested. -/
def statementDepth : Nat := 1000

inductive Failure where
  | unknownTermType (text : String)
  | unknownEntityKind (text : String)
  | invalidEntityId (text : String)
  | unsupportedEntityKind (expected actual : EntityKind)
  | unreadable (fault : Json.Fault)
  /-- A failure of the store behind a lookup. -/
  | store (cause : Failure)
  /-- A failure outside the store that is passed on by it. -/
  | core (cause : Failure)
  | storageFull
  /-- A statement whose expressions are nested too deeply. -/
  | statementTooDeep
  /-- A database file without tables. -/
  | noTable (name : String)
  | notDatabase
  /-- A database file whose log cannot be read. -/
  | noAccess
  | invalidBatchSize (size : Nat)
  | unknownTypeCode (code : RowId)
  | missingTypeCode (type : TermType)
  /-- Rows that are not there although they have just been inserted. -/
  | incomplete (level : Level) (missing : Nat)
  /-- Ids that rows to insert point at and that are not there on the primary. -/
  | missingParent (level : Level) (ids : List RowId)
  deriving DecidableEq, Repr

def bracketedIds (ids : List RowId) : String :=
  "[" ++ ", ".intercalate (ids.map fun id => String.ofList (Number.integerChars id.toInt)) ++ "]"

def storageFault (reason : String) : String :=
  "database error: Rusqlite(" ++ Text.quoted reason ++ ")"

def Failure.message : Failure → String
  | .unknownTermType text => "unknown term type: " ++ Text.quoted text
  | .unknownEntityKind text => "unknown entity kind: " ++ Text.quoted text
  | .invalidEntityId text => EntityId.refusal text
  | .unsupportedEntityKind expected actual =>
    "lookup only supports " ++ expected.name ++ " entities, got " ++ actual.name
  | .unreadable fault => fault.message?.getD "the text is not JSON"
  | .store cause => "store error: " ++ cause.message
  | .core cause => "core error: " ++ cause.message
  | .storageFull => storageFault "database or disk is full"
  | .statementTooDeep => storageFault ("Expression tree is too large (maximum depth " ++
      String.ofList (Number.digits statementDepth) ++ ")")
  | .noTable name => storageFault ("no such table: " ++ name)
  | .notDatabase => storageFault "file is not a database"
  | .noAccess => storageFault "unable to open database file"
  | .invalidBatchSize size =>
    "batch size must be at least 1, got " ++ String.ofList (Number.digits size)
  | .unknownTypeCode code =>
    "unknown type id: " ++ String.ofList (Number.integerChars code.toInt)
  | .missingTypeCode type => "no type id registered for " ++ type.name
  | .incomplete level missing =>
    String.ofList (Number.digits missing) ++ " " ++ level.tableName ++
      " rows missing after insert"
  | .missingParent level ids =>
    level.tableName ++ " rows " ++ bracketedIds ids ++ " are missing on the primary"

namespace EntityId

def ofText (text : String) : Except Failure EntityId :=
  match ofText? text with
  | some entity => .ok entity
  | none => .error (.invalidEntityId text)

/-- Reads a JSON string. The text of an id that is not one is refused with the failure's message. -/
def ofJson (json : String) : Except Json.Fault EntityId :=
  Json.readAll (fun s => do
    let (text, rest) ← Json.readText "a string" s
    match ofText text with
    | .ok entity => return (entity, rest)
    | .error failure => .error (.refused failure.message)) json

end EntityId

end Termbase
