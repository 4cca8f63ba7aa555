import Termbase.CommandLine.Address
import Termbase.CommandLine.Files
import Termbase.Settings.StoreSettings
import Termbase.Store

namespace Termbase

/-- What is read where a lagging answer will do, if it is not the primary. -/
inductive Replica where
  | database (db : Database)
  /-- A database without tables. -/
  | blank
  | foreign
  /-- A database with a log that cannot be read. -/
  | unreachable

namespace Replica

/-- The replica in a file with an address. A database with a log keeps its tables there until they
are merged, so nothing is seen of them in the file itself. -/
def ofContent (address : Address) (content : Content) : Replica :=
  match content with
  | .database db isLogged =>
    if isLogged && address.isFrozen then .blank
    else if isLogged && !address.keepsLog then .unreachable
    else .database db
  | .text _ => if content.database?.isSome then .blank else .foreign
  | .other => .foreign

def failure? (part : Part) : Replica → Option Failure
  | .database _ => none
  | .blank => some (.noTable part.tableName)
  | .foreign => some .notDatabase
  | .unreachable => some .noAccess

def contents : Replica → Database
  | .database db => db
  | _ => Database.empty

end Replica

/-- What the name of the file ends in that holds what has been written last. -/
def logEnding : String := "-wal"

def indexEnding : String := "-shm"

/-- What the name of the file ends in that holds what an unfinished change is taken back with. -/
def journalEnding : String := "-journal"

def Place.hasRoomBeside (place : Place) : Bool :=
  (place.beside journalEnding).names.all fun name =>
    decide (name.utf8ByteSize ≤ FileAccess.longestName)

/-- A primary that has been found: where it is kept, if it is, and what is in it. -/
structure Primary where
  address : Address
  place : Option Place
  content : Content

namespace Primary

def database? (primary : Primary) : Option Database :=
  if primary.address.isWritable && primary.place.all Place.hasRoomBeside &&
      (primary.address.keepsLog || !primary.content.isLogged) then
    primary.content.database?
  else none

def opened (primary : Primary) : Content :=
  .database (primary.content.database?.getD Database.empty) primary.address.keepsLog

end Primary

structure Opened where
  store : Store
  storage : Storage
  primary : Primary
  replica : Option Replica

namespace Opening

variable {m : Type → Type} [Monad m]

/-- Finds a primary in a file, which is made if need be. -/
def primaryAt (access : FileAccess m) (address : Address) (place : Place) :
    m (Option Primary) := do
  match ← access.find place with
  | .file content => return some ⟨address, some place, content⟩
  | .directory => return none
  | .absent =>
    if address.mode ≠ .create then return none
    else if ← access.create place then return some ⟨address, some place, .text ""⟩
    else return none

def primaryNamed (access : FileAccess m) (name : String) : m (Option Primary) := do
  let some address := Address.ofName? .create name | return none
  match address.location with
  | .memory _ => return some ⟨address, none, .text ""⟩
  | .file path =>
    let some place ← access.settle path | return none
    primaryAt access address place

/-- Finds the replica with a name: `some none` is the primary. -/
def replicaNamed (access : FileAccess m) (primary : Primary) (name : String) :
    m (Option (Option Replica)) := do
  let some address := Address.ofName? .read name | return none
  match address.location with
  | .memory _ =>
    if address.location.isSharedWith primary.address.location then return some none
    else return some (some .blank)
  | .file path =>
    let some place ← access.settle path | return none
    if primary.place = some place then
      match Replica.ofContent address primary.opened with
      | .database db => return some (if address.isFrozen then some (.database db) else none)
      | replica => return some (some replica)
    else
      match ← access.find place with
      | .file content => return some (some (Replica.ofContent address content))
      | _ => return none

def replicaOf (access : FileAccess m) (primary : Primary) :
    Option String → m (Option (Option Replica))
  | none => return some none
  | some name => replicaNamed access primary name

/-- Keeps the database of a primary for the next command, with what is left beside it. -/
def save (access : FileAccess m) (primary : Primary) (db : Database) : m Unit := do
  match primary.place with
  | none => return ()
  | some place =>
    let isLogged := primary.address.keepsLog
    access.write place (.database db isLogged)
    access.remove (place.beside journalEnding)
    if isLogged then
      access.write (place.beside logEnding) .other
      access.write (place.beside indexEnding) .other
    else access.remove (place.beside logEnding)

def run (access : FileAccess m) (settings : StoreSettings) : m (Option Opened) := do
  let some primary ← primaryNamed access settings.path | return none
  let some replica ← replicaOf access primary settings.replicaPath | return none
  let some db := primary.database? | return none
  save access primary db
  match BatchSize.ofNat settings.batchSize with
  | .error _ => return none
  | .ok batch =>
    let source := if replica.isSome then Source.replica else .primary
    let storage : Storage := ⟨db, (replica.map Replica.contents).getD Database.empty⟩
    match (Store.connect source batch).run storage with
    | (.ok store, storage) => return some ⟨store, storage, primary, replica⟩
    | (.error _, storage) => do
      save access primary storage.primary
      return none

end Opening

end Termbase
