import Termbase.Lookup
import Termbase.Store.Links

namespace Termbase

inductive Via where
  /-- Reads the replica, if there is one. -/
  | main
  | direct
  /-- Reads what the main store reads, with codes of its own. -/
  | custom
  deriving DecidableEq, Repr

inductive IdChoice where
  | given (ids : List RowId)
  | produced
  deriving DecidableEq, Repr

inductive Request where
  | acquire (terms : TermSet)
  | clean (ids : IdChoice)
  | storeTerms (entity : EntityId) (terms : TermSet)
  | deleteTerms (entity : EntityId)
  | linkedIds (entities : List EntityId)
  | resolveGroups (groups : List (EntityId × List RowId)) (selection : Selection)
  | resolve (ids : IdChoice) (selection : Selection)
  | resolveEntities (entities : List EntityId) (selection : Selection)
  | acquireIds (level : Level) (records : List level.Record) (forced : Option (ForcedIds level))
      (primaryOnly : Bool)
  | codeOf (type : TermType)
  | typeOf (code : RowId)
  | sync (parts : List Part)
  | dump (source : Source)
  | openLookup (name : String) (kind : EntityKind)
  | prefetch (name : String) (entities : List EntityId) (types : List TermType)
      (languages : List String)
  | readText (name : String) (entity : EntityId) (type : TermType) (language : String)
  | readSynonyms (name : String) (entity : EntityId) (language : String)
  | fetchText (name : String) (entity : EntityId) (type : TermType) (language : String)
  | fetchSynonyms (name : String) (entity : EntityId) (language : String)

inductive Step where
  | request (via : Via) (request : Request)
  | acquireWith (via : Via) (terms : TermSet) (callback : List Step)
  /-- A step that has no effect but its failure. -/
  | refused (failure : Failure)
  | abort (failure : Failure)

inductive Outcome where
  | done
  | acquired (acquired : Acquired)
  | cleaned (report : CleanupReport)
  | linked (ids : List (EntityId × List RowId))
  | resolved (terms : List (EntityId × TermSet))
  | terms (terms : TermSet)
  | recordIds (level : Level) (ids : RecordIds level) (requested : List level.Record)
  | code (code : RowId)
  | termType (type : TermType)
  | contents (db : Database)
  | kind (kind : EntityKind)
  | reading (reading : Reading)
  | text? (text : Option String)
  | texts? (texts : Option (List String))

/-- The answer to a step, with the row counts of the primary after it. -/
inductive Answer where
  | plain (outcome : Except Failure Outcome) (counts : List Nat)
  /-- The answer to an interning with a callback. `given` are the ids that the callback was given,
  if it ran, and `answers` the answers to its steps. -/
  | called (outcome : Except Failure Acquired) (given : Option (List RowId))
      (answers : List Answer) (counts : List Nat)

end Termbase
