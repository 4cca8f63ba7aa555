import Termbase.Interning.ForcedIds
import Termbase.Storage.Action
import Termbase.Storage.Batch

namespace Termbase

/-- The ids of records, one for each distinct record, and what kept forced ids from being used. -/
structure RecordIds (level : Level) where
  entries : List (level.Record × RowId)
  mismatch : Option ForcedMismatch

namespace RecordIds

variable {level : Level}

def empty : RecordIds level := ⟨[], none⟩

def idOf (ids : RecordIds level) (record : level.Record) : Except Failure RowId :=
  match ids.entries.lookup record with
  | some id => .ok id
  | none => .error (.incomplete level 1)

end RecordIds

/-- The rows that hold one of some records, each with its record first. -/
def Table.matching {ρ : Type} [DecidableEq ρ] (table : Table ρ) (records : List ρ) :
    List (ρ × RowId) :=
  (table.rows.filter fun row => row.2 ∈ records).map fun row => (row.2, row.1)

/-- A statement may match rows with so many records. A match is nested as deeply as it compares
columns, and each further one adds to that. -/
def Level.Accepts (level : Level) (records : Nat) : Prop :=
  level.keyColumns.length + records ≤ statementDepth

instance (level : Level) (records : Nat) : Decidable (level.Accepts records) :=
  inferInstanceAs (Decidable (_ ≤ _))

def Table.presentAmong {ρ : Type} (table : Table ρ) (ids : List RowId) : List RowId :=
  table.ids.filter fun id => id ∈ ids

namespace Database

/-- Looks for the rows of records with one statement. -/
def select (db : Database) (level : Level) (records : List level.Record) :
    Except Failure (List (level.Record × RowId)) :=
  if level.Accepts records.length then .ok ((db.table level).matching records)
  else .error .statementTooDeep

def selectIds (db : Database) (batch : BatchSize) (level : Level) (records : List level.Record) :
    Except Failure (List (level.Record × RowId)) := do
  return firstPerKey (← batch.collectM (db.select level) records)

def absentIds (db : Database) (batch : BatchSize) (level : Level) (ids : List RowId) :
    List RowId :=
  let wanted := ascending ids
  let present := batch.collect (db.table level).presentAmong wanted
  wanted.filter fun id => id ∉ present

/-- The ids that rows of a level are pointed at with but do not have, at the first level where
there are any. -/
def missingParents (db : Database) (batch : BatchSize) (parents : List (Level × RowId)) :
    Option (Level × List RowId) :=
  [Level.text, .textInLang, .termInLang].findSome? fun level =>
    let ids := (parents.filter fun parent => parent.1 = level).map Prod.snd
    match db.absentIds batch level ids with
    | [] => none
    | absent => some (level, absent)

/-- Adds the rows for records, each with its forced id if it has one. No row is added unless all
the rows that the records point at are there. -/
def insertRecords (db : Database) (batch : BatchSize) (level : Level)
    (rows : List (level.Record × Option RowId)) : Except Failure (Unit × Database) :=
  match db.missingParents batch (rows.filterMap fun row => level.parent? row.1) with
  | some (parent, ids) => .error (.missingParent parent ids)
  | none =>
    match (db.table level).insertAll rows with
    | some table => .ok ((), db.withTable level table)
    | none => .error .storageFull

end Database

/-- The forced ids of the records to insert. Without forced ids, or with ones that do not fit,
the records get new ids. -/
def assignForced {level : Level} (forced : Option (ForcedIds level)) (records : List level.Record) :
    List (Option RowId) × Option ForcedMismatch :=
  match forced with
  | none => (records.map fun _ => none, none)
  | some forced =>
    match forced.assign records with
    | .ok ids => (ids.map some, none)
    | .error mismatch => (records.map fun _ => none, some mismatch)

/-- Gives every record an id. Records that the source knows keep their ids; the others are
inserted into the primary, where another row for one of them counts as its row, and are then
looked up there. -/
def acquireIds (batch : BatchSize) (source : Source) (level : Level)
    (records : List level.Record) (forced : Option (ForcedIds level)) :
    Action Storage (RecordIds level) :=
  if records.isEmpty then return RecordIds.empty
  else do
    let found ← Action.ofResult (← Action.query source fun db => db.selectIds batch level records)
    let missing := records.filter fun record => (found.lookup record).isNone
    let (assigned, mismatch) := assignForced forced missing
    if missing.isEmpty then return ⟨found, mismatch⟩
    else do
      Action.transact fun db => db.insertRecords batch level (missing.zip assigned)
      let inserted ← Action.ofResult
        (← Action.query .primary fun db => db.selectIds batch level missing)
      if inserted.length < missing.length then
        Action.fail (.incomplete level (missing.length - inserted.length))
      else return ⟨found ++ inserted, mismatch⟩

end Termbase
