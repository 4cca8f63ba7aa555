import Termbase.Ascending
import Termbase.Record.Level

namespace Termbase

/-- Ids that records are to be inserted with, at most one for each record. -/
structure ForcedIds (level : Level) where
  entries : List (level.Record × RowId)
  records_nodup : (entries.map Prod.fst).Nodup

/-- The records to insert are not the ones with forced ids. -/
structure ForcedMismatch where
  forced : List RowId
  recordsToInsert : Nat
  deriving DecidableEq, Repr

namespace ForcedIds

variable {level : Level}

def empty : ForcedIds level := ⟨[], by simp⟩

def insert (forced : ForcedIds level) (record : level.Record) (id : RowId) : ForcedIds level :=
  ⟨Termbase.assign record id forced.entries, assign_keys_nodup forced.records_nodup⟩

/-- The forced ids of pairs; the last pair of a record counts. -/
def ofPairs (pairs : List (level.Record × RowId)) : ForcedIds level :=
  pairs.foldl (fun forced pair => forced.insert pair.1 pair.2) empty

def ids (forced : ForcedIds level) : List RowId := ascending (forced.entries.map Prod.snd)

/-- The forced id of each record to insert. Every record has to have one, there have to be as
many records as forced ones, and no two forced ids may be equal. -/
def assign (forced : ForcedIds level) (records : List level.Record) :
    Except ForcedMismatch (List RowId) :=
  match records.mapM fun record => forced.entries.lookup record with
  | some ids =>
    if records.length = forced.entries.length ∧ forced.ids.length = forced.entries.length then
      .ok ids
    else .error ⟨forced.ids, records.length⟩
  | none => .error ⟨forced.ids, records.length⟩

end ForcedIds

end Termbase
