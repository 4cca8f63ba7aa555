import Mathlib.Data.List.Sort
import Termbase.Proofs.Cleaning
import Termbase.Proofs.Forcing

namespace Termbase

namespace BatchSize

variable {α β : Type}

/-- A query that deals with each element by itself gives the same in batches. -/
theorem collect_eq {query : List α → List β} (nil : query [] = [])
    (append : ∀ xs ys, query (xs ++ ys) = query xs ++ query ys) (size : BatchSize) (xs : List α) :
    size.collect query xs = query xs := by
  have chunks : ∀ chunks : List (List α), chunks.flatMap query = query chunks.flatten := by
    intro chunks
    induction chunks with
    | nil => exact nil.symm
    | cons chunk chunks ih => rw [List.flatMap_cons, ih, List.flatten_cons, append]
  unfold collect
  rw [chunks, size.flatten_split]

end BatchSize

theorem ascendingIds_congr {ids others : List RowId}
    (h : ∀ id, id ∈ ascending ids ↔ id ∈ ascending others) : ascending ids = ascending others :=
  (ascendingIds_pairwise ids).eq_of_mem_iff (ascendingIds_pairwise others) h

namespace Table

variable {ρ : Type} {table : Table ρ}

theorem erase_congr {ids others : List RowId} (h : ∀ id, id ∈ ids ↔ id ∈ others) :
    table.erase ids = table.erase others := by
  refine eq_of_rows (List.filter_congr fun row _ => ?_) rfl
  simp only [h]

end Table

theorem Links.collect_idsOfEach (batch : BatchSize) (links : Links) (numbers : List UInt32) :
    batch.collect links.idsOfEach numbers = links.idsOfEach numbers := by
  refine batch.collect_eq rfl (fun xs ys => ?_) numbers
  unfold idsOfEach
  rw [List.map_append, List.filter_append]

namespace Database

variable {db : Database} (first second : BatchSize)

theorem unlinked_batch (ids : List RowId) : db.unlinked first ids = db.unlinked second ids :=
  ascendingIds_congr fun _ => mem_unlinked.trans mem_unlinked.symm

theorem absentIds_batch (level : Level) (ids : List RowId) :
    db.absentIds first level ids = db.absentIds second level ids := by
  refine List.filter_congr fun id _ => ?_
  simp only [Table.mem_presentAmong]

theorem missingParents_batch (parents : List (Level × RowId)) :
    db.missingParents first parents = db.missingParents second parents := by
  unfold missingParents
  simp only [absentIds_batch first second]

theorem insertRecords_batch (level : Level) (rows : List (level.Record × Option RowId)) :
    db.insertRecords first level rows = db.insertRecords second level rows := by
  unfold insertRecords
  rw [missingParents_batch first second]

theorem unreferenced_batch {ρ : Type} {above : Table ρ} {parent : ρ → RowId}
    {ids others : List RowId} (h : ∀ id, id ∈ ids ↔ id ∈ others) :
    unreferenced first above parent ids = unreferenced second above parent others := by
  refine ascendingIds_congr fun id => mem_unreferenced.trans ?_
  rw [h]
  exact mem_unreferenced.symm

theorem mem_parentsOf_batch {ρ : Type} {table : Table ρ} {parent : ρ → RowId} {ids : List RowId}
    (id : RowId) :
    id ∈ parentsOf first table parent ids ↔ id ∈ parentsOf second table parent ids :=
  mem_parentsOf.trans mem_parentsOf.symm

theorem clean_batch (ids : List RowId) : db.clean first ids = db.clean second ids := by
  have existing : ∀ id, id ∈ first.collect db.termInLang.presentAmong (db.unlinked second ids) ↔
      id ∈ second.collect db.termInLang.presentAmong (db.unlinked second ids) :=
    fun id => Table.mem_presentAmong.trans Table.mem_presentAmong.symm
  have listed : ascending (first.collect db.termInLang.presentAmong (db.unlinked second ids)) =
      ascending (second.collect db.termInLang.presentAmong (db.unlinked second ids)) :=
    ascendingIds_congr fun id => by rw [mem_ascending, mem_ascending, existing]
  have erased : db.termInLang.erase
        (first.collect db.termInLang.presentAmong (db.unlinked second ids)) =
      db.termInLang.erase (second.collect db.termInLang.presentAmong (db.unlinked second ids)) :=
    Table.erase_congr existing
  unfold clean
  simp only [Table.eraseAll_eq, unlinked_batch first second, erased, listed,
    unreferenced_batch first second (mem_parentsOf_batch first second)]

theorem mem_idsOf {batch : BatchSize} {level : Level} {records : List level.Record}
    {entry : level.Record × RowId} :
    entry ∈ db.idsOf batch level records ↔
      entry.1 ∈ records ∧ (entry.2, entry.1) ∈ (db.table level).rows := by
  have keys : ((db.idsOf batch level records).map Prod.fst).Nodup := firstPerKey_keys_nodup _
  rw [← lookup_idsOf, lookup_eq_some_iff_mem keys]

/-- Only the order of the ids depends on the batches and on the order of the rows. -/
theorem idsOf_perm {other : Database} {level : Level}
    (same : ∀ row, row ∈ (db.table level).rows ↔ row ∈ (other.table level).rows)
    (records : List level.Record) :
    (db.idsOf first level records).Perm (other.idsOf second level records) := by
  have nodup : ∀ (db : Database) batch, (db.idsOf batch level records).Nodup := by
    intro db batch
    have keys : ((db.idsOf batch level records).map Prod.fst).Nodup := firstPerKey_keys_nodup _
    exact List.Pairwise.of_map Prod.fst (fun _ _ hne he => hne (congrArg Prod.fst he)) keys
  refine (List.perm_ext_iff_of_nodup (nodup db first) (nodup other second)).mpr fun entry => ?_
  rw [mem_idsOf, mem_idsOf, same]

omit first second in
theorem storedTerms_eq (batch : BatchSize) (ids : List RowId) :
    db.storedTerms batch ids =
      ids.filterMap fun id => (db.storedTerm? id).map fun term => (id, term) :=
  batch.collect_eq rfl (fun _ _ => List.filterMap_append) ids

theorem storedTerms_batch (ids : List RowId) :
    db.storedTerms first ids = db.storedTerms second ids := by
  rw [storedTerms_eq, storedTerms_eq]

theorem linkedIdsOf_batch (entities : List EntityId) :
    db.linkedIdsOf first entities = db.linkedIdsOf second entities := by
  unfold linkedIdsOf
  simp only [Links.collect_idsOfEach]

end Database

end Termbase
