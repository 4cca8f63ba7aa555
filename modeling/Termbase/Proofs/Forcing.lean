import Mathlib.Data.List.Nodup
import Mathlib.Data.List.Perm.Subperm
import Termbase.Proofs.Acquiring

namespace Termbase

theorem ascendingIds_pairwise (ids : List RowId) : (ascending ids).Pairwise (· < ·) := by
  refine ascending_pairwise (fun _ _ _ => Int64.lt_trans) (fun a b hnot hne => ?_) ids
  have hle := Int64.not_lt.mp hnot
  exact Int64.lt_of_le_of_ne hle (Ne.symm hne)

theorem ascendingIds_nodup (ids : List RowId) : (ascending ids).Nodup := by
  refine List.Pairwise.imp (fun {a b} (h : a < b) (he : a = b) => ?_) (ascendingIds_pairwise ids)
  rw [he] at h
  exact Int64.lt_irrefl h

/-- A list that does not get shorter without its repetitions has none, and conversely. -/
theorem ascendingIds_length_iff {ids : List RowId} :
    (ascending ids).length = ids.length ↔ ids.Nodup := by
  constructor
  · intro h
    have hsub : ascending ids ⊆ ids := fun _ hid => mem_ascending.mp hid
    have hsubperm := List.subperm_of_subset (ascendingIds_nodup ids) hsub
    exact (hsubperm.perm_of_length_le (Nat.le_of_eq h.symm)).nodup_iff.mp (ascendingIds_nodup ids)
  · intro nodup
    have hperm : (ascending ids).Perm ids :=
      (List.perm_ext_iff_of_nodup (ascendingIds_nodup ids) nodup).mpr fun _ => mem_ascending
    exact hperm.length_eq

namespace ForcedIds

variable {level : Level}

/-- The records that have forced ids. -/
def records (forced : ForcedIds level) : List level.Record := forced.entries.map Prod.fst

/-- No two records have the same forced id. -/
def Distinct (forced : ForcedIds level) : Prop := (forced.entries.map Prod.snd).Nodup

variable {forced : ForcedIds level} {records : List level.Record} {ids : List RowId}

theorem distinct_iff : forced.Distinct ↔ forced.ids.length = forced.entries.length := by
  have hlength : (forced.entries.map Prod.snd).length = forced.entries.length := List.length_map ..
  rw [← hlength]
  exact ascendingIds_length_iff.symm

/-- Distinct records are assigned all forced ids, each its own. -/
theorem zip_perm_of_assign (h : forced.assign records = .ok ids) (distinct : records.Nodup) :
    (records.zip ids).Perm forced.entries := by
  obtain ⟨hlookup, hlength, _⟩ := assign_ok h
  have hids := assign_length h
  have hkeys : ((records.zip ids).map Prod.fst).Nodup := by
    rwa [List.map_fst_zip (Nat.le_of_eq hids)]
  have hsub : records.zip ids ⊆ forced.entries := fun pair hpair =>
    mem_of_lookup (lookup_of_mem_zip hlookup hpair)
  have hzip : (records.zip ids).length = forced.entries.length := by
    rw [List.length_zip, ← hids, Nat.min_self, hlength]
  have hsubperm := List.subperm_of_subset (List.Nodup.of_map _ hkeys) hsub
  exact hsubperm.perm_of_length_le (Nat.le_of_eq hzip.symm)

end ForcedIds

theorem forcedRows_of_fit {level : Level} {known : ForcedIds level} {missing : List level.Record}
    (h : (assignForced (some known) missing).2 = none) :
    ∃ found, known.assign missing = .ok found ∧
      forcedRows (some known) missing = (missing.zip found).map fun row => (row.1, some row.2) := by
  unfold forcedRows
  unfold assignForced at h ⊢
  simp only at h ⊢
  split at h
  next found hfound =>
    refine ⟨found, hfound, ?_⟩
    rw [List.zip_map_right]
    rfl
  next => simp at h

namespace Acquires

variable {batch : BatchSize} {level : Level} {records : List level.Record}
  {wanted : ForcedIds level} {known : Database} {storage after : Storage} {ids : RecordIds level}

/-- What has been inserted if the forced ids fit the records that the source does not know. -/
theorem inserted_forced
    (h : Acquires batch level records (some wanted) known storage (.ok ids) after)
    (fit : ids.mismatch = none) (distinct : records.Nodup)
    (some : known.unknown level records ≠ []) :
    wanted.Distinct ∧ ∃ rows : List (level.Record × RowId),
      rows.map Prod.fst = known.unknown level records ∧ rows.Perm wanted.entries ∧
      (storage.primary.table level).insertAll (rows.map fun row => (row.1, Option.some row.2)) =
        Option.some (after.primary.table level) := by
  cases h with
  | nothing hnil =>
    subst hnil
    exact absurd rfl some
  | known _ hnil => exact absurd hnil some
  | inserted _ hinsert =>
    obtain ⟨found, hfound, hrows⟩ := forcedRows_of_fit fit
    obtain ⟨_, table, htable, rfl⟩ := Database.insertRecords_ok hinsert
    rw [hrows] at htable
    refine ⟨ForcedIds.distinct_iff.mpr (ForcedIds.assign_ok hfound).2.2,
      (known.unknown level records).zip found,
      List.map_fst_zip (Nat.le_of_eq (ForcedIds.assign_length hfound)),
      ForcedIds.zip_perm_of_assign hfound (distinct.sublist List.filter_sublist), ?_⟩
    rw [Database.table_withTable]
    exact htable

/-- Forced ids that fit and that nothing on the primary stands in the way of come to their
records. -/
theorem admitted (h : Acquires batch level records (some wanted) known storage (.ok ids) after)
    (fit : ids.mismatch = none) (distinct : records.Nodup)
    (admits : ∀ entry ∈ wanted.entries,
      (storage.primary.table level).Admits entry.2 entry.1)
    (some : known.unknown level records ≠ []) {entry : level.Record × RowId}
    (hentry : entry ∈ wanted.entries) :
    (entry.2, entry.1) ∈ (after.primary.table level).rows := by
  obtain ⟨distinctIds, rows, _, hperm, hinsert⟩ := h.inserted_forced fit distinct some
  have hrows := Table.insertAll_admitted hinsert
    (fun row hrow => admits row (hperm.mem_iff.mp hrow))
    ((hperm.map Prod.snd).nodup_iff.mpr distinctIds)
    ((hperm.map Prod.fst).nodup_iff.mpr wanted.records_nodup)
  rw [hrows, List.mem_append]
  by_cases there : entry.1 ∈ (storage.primary.table level).records
  · exact Or.inl ((admits entry hentry).resolve_right fun free => free.2 there)
  · refine Or.inr (List.mem_map.mpr ⟨entry, ?_, rfl⟩)
    exact List.mem_filter.mpr ⟨hperm.mem_iff.mpr hentry, decide_eq_true there⟩

/-- Forced ids that are free and fit come back to their records. -/
theorem forced (h : Acquires batch level records (some wanted) storage.primary storage (.ok ids)
      after)
    (fit : ids.mismatch = none) (nodup : records.Nodup)
    (free : ∀ entry ∈ wanted.entries, entry.2 ∉ (storage.primary.table level).ids)
    {entry : level.Record × RowId} (hentry : entry ∈ wanted.entries) (hrecord : entry.1 ∈ records) :
    (entry.2, entry.1) ∈ (after.primary.table level).rows := by
  have assigned := h.mismatch_eq (List.ne_nil_of_mem hrecord)
  obtain ⟨found, hfound, _⟩ := forcedRows_of_fit (assigned.symm.trans fit)
  -- All forced records are unknown: there are as many forced ones as unknown ones.
  have unknown : ∀ entry ∈ wanted.entries, entry.1 ∈ storage.primary.unknown level records :=
    fun entry hentry => (List.of_mem_zip ((ForcedIds.zip_perm_of_assign hfound
      (nodup.sublist List.filter_sublist)).mem_iff.mpr hentry)).1
  refine h.admitted fit nodup (fun entry hentry => Or.inr ⟨free entry hentry, ?_⟩)
    (List.ne_nil_of_mem (unknown entry hentry)) hentry
  exact (Database.mem_unknown.mp (unknown entry hentry)).2

end Acquires

end Termbase
