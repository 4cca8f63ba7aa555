import Termbase.Term.TermMap

namespace Termbase

/-- The id after another one. There is none after the largest. -/
def nextId? (id : RowId) : Option RowId := if id = Int64.maxValue then none else some (id + 1)

theorem toInt_nextId? {id next : RowId} (h : nextId? id = some next) :
    next.toInt = id.toInt + 1 := by
  unfold nextId? at h
  split at h
  next => simp at h
  next notLast =>
    have hnext := Option.some.inj h
    have hlow := Int64.le_toInt id
    have hhigh := Int64.toInt_lt id
    have hne : id.toInt ≠ 9223372036854775807 := fun he => notLast (Int64.toInt_inj.mp he)
    have hone : (1 : Int64).toInt = 1 := rfl
    rw [← hnext, Int64.toInt_add, hone, Int.bmod_eq_of_le (by omega) (by omega)]

theorem lt_of_nextId? {id next : RowId} (h : nextId? id = some next) : id < next := by
  rw [Int64.lt_iff_toInt_lt, toInt_nextId? h]
  omega

def laterId (a b : RowId) : RowId := if a < b then b else a

theorem left_le_laterId (a b : RowId) : a ≤ laterId a b := by
  unfold laterId
  split
  next h => exact Int64.le_of_lt h
  next => exact Int64.le_refl a

theorem right_le_laterId (a b : RowId) : b ≤ laterId a b := by
  unfold laterId
  split
  next => exact Int64.le_refl b
  next h => exact Int64.not_lt.mp h

/-- Rows with ids, no two of which hold the same. New ids follow the largest one that has ever
been used, so that the id of a row that is gone does not come back by itself. -/
structure Table (ρ : Type) where
  rows : List (RowId × ρ)
  lastId : RowId
  ids_nodup : (rows.map Prod.fst).Nodup
  records_nodup : (rows.map Prod.snd).Nodup
  ids_le_lastId : ∀ row ∈ rows, row.1 ≤ lastId
  lastId_nonneg : 0 ≤ lastId

namespace Table

variable {ρ : Type}

def empty : Table ρ := ⟨[], 0, by simp, by simp, by simp, Int64.le_refl 0⟩

def ids (table : Table ρ) : List RowId := table.rows.map Prod.fst

def records (table : Table ρ) : List ρ := table.rows.map Prod.snd

/-- Takes an id as used. -/
def reserve (table : Table ρ) (id : RowId) : Table ρ :=
  { table with
    lastId := laterId table.lastId id
    ids_le_lastId := fun row hrow =>
      Int64.le_trans (table.ids_le_lastId row hrow) (left_le_laterId table.lastId id)
    lastId_nonneg := Int64.le_trans table.lastId_nonneg (left_le_laterId table.lastId id) }

theorem add_ids_nodup {rows : List (RowId × ρ)} {id : RowId} {record : ρ}
    (h : (rows.map Prod.fst).Nodup) (fresh : id ∉ rows.map Prod.fst) :
    ((rows ++ [(id, record)]).map Prod.fst).Nodup := by
  rw [List.map_append, List.nodup_append]
  refine ⟨h, by simp, fun a ha b hb hab => ?_⟩
  simp only [List.map_cons, List.map_nil, List.mem_singleton] at hb
  exact fresh (hb ▸ hab ▸ ha)

theorem add_records_nodup {rows : List (RowId × ρ)} {id : RowId} {record : ρ}
    (h : (rows.map Prod.snd).Nodup) (fresh : record ∉ rows.map Prod.snd) :
    ((rows ++ [(id, record)]).map Prod.snd).Nodup := by
  rw [List.map_append, List.nodup_append]
  refine ⟨h, by simp, fun a ha b hb hab => ?_⟩
  simp only [List.map_cons, List.map_nil, List.mem_singleton] at hb
  exact fresh (hb ▸ hab ▸ ha)

variable [DecidableEq ρ]

def isFree (table : Table ρ) (id : RowId) (record : ρ) : Bool :=
  id ∉ table.ids && record ∉ table.records

/-- Adds a row with a given id if its id and its record are not there yet. The id is used either
way. -/
def insertAt (table : Table ρ) (id : RowId) (record : ρ) : Table ρ :=
  if h : id ∉ table.ids ∧ record ∉ table.records then
    ⟨table.rows ++ [(id, record)], laterId table.lastId id, add_ids_nodup table.ids_nodup h.1,
      add_records_nodup table.records_nodup h.2,
      fun row hrow => by
        rcases List.mem_append.mp hrow with hrow | hrow
        · exact Int64.le_trans (table.ids_le_lastId row hrow) (left_le_laterId table.lastId id)
        · rw [List.mem_singleton.mp hrow]
          exact right_le_laterId table.lastId id,
      Int64.le_trans table.lastId_nonneg (left_le_laterId table.lastId id)⟩
  else table.reserve id

/-- Adds a row with the next id if its record is not there yet. The next id is used either way,
and there is no result when there is none. -/
def insertNext (table : Table ρ) (record : ρ) : Option (Table ρ) :=
  (nextId? table.lastId).map fun id => table.insertAt id record

/-- Adds a row with a given id or, if it has none or cannot be added with that id, with the next
one. -/
def insert (table : Table ρ) (record : ρ) (id? : Option RowId) : Option (Table ρ) :=
  match id? with
  | none => table.insertNext record
  | some id =>
    if table.isFree id record then some (table.insertAt id record)
    else (table.reserve id).insertNext record

def insertAll (table : Table ρ) (rows : List (ρ × Option RowId)) : Option (Table ρ) :=
  rows.foldlM (fun table row => table.insert row.1 row.2) table

def erase (table : Table ρ) (ids : List RowId) : Table ρ :=
  { table with
    rows := table.rows.filter fun row => row.1 ∉ ids
    ids_nodup := table.ids_nodup.sublist (List.filter_sublist.map _)
    records_nodup := table.records_nodup.sublist (List.filter_sublist.map _)
    ids_le_lastId := fun row hrow => table.ids_le_lastId row (List.mem_filter.mp hrow).1 }

end Table

end Termbase
