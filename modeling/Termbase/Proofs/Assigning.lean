import Termbase.Proofs.Forcing

namespace Termbase

namespace ForcedIds

variable {level : Level} {forced : ForcedIds level} {records : List level.Record} {ids : List RowId}

/-- Every one of the records has a forced id. -/
theorem lookups_iff : (∃ ids : List RowId, records.map (fun record =>
    forced.entries.lookup record) = ids.map some) ↔ records ⊆ forced.records := by
  constructor
  · rintro ⟨ids, hids⟩ record hrecord
    have hmem : forced.entries.lookup record ∈ ids.map some :=
      hids ▸ List.mem_map.mpr ⟨record, hrecord, rfl⟩
    obtain ⟨id, _, hid⟩ := List.mem_map.mp hmem
    exact key_mem_of_lookup hid.symm
  · intro h
    induction records with
    | nil => exact ⟨[], rfl⟩
    | cons record records ih =>
      obtain ⟨id, hid⟩ := lookup_exists (h List.mem_cons_self)
      obtain ⟨ids, hids⟩ := ih fun other hother => h (List.mem_cons_of_mem _ hother)
      exact ⟨id :: ids, by rw [List.map_cons, List.map_cons, hid, hids]⟩

/-- Only membership and numbers are looked at. -/
theorem assign_isOk_iff : (∃ ids, forced.assign records = .ok ids) ↔
    forced.Distinct ∧ records ⊆ forced.records ∧
      records.length = forced.records.length := by
  have lengths : forced.records.length = forced.entries.length := List.length_map ..
  rw [lengths]
  constructor
  · rintro ⟨ids, h⟩
    obtain ⟨hlookup, hlength, hdistinct⟩ := assign_ok h
    exact ⟨distinct_iff.mpr hdistinct, lookups_iff.mp ⟨ids, hlookup⟩, hlength⟩
  · rintro ⟨hdistinct, hsub, hlength⟩
    obtain ⟨ids, hlookup⟩ := lookups_iff.mpr hsub
    refine ⟨ids, ?_⟩
    unfold assign
    rw [mapM_eq_some.mpr hlookup]
    exact if_pos ⟨hlength, distinct_iff.mp hdistinct⟩

theorem assign_error {mismatch : ForcedMismatch} (h : forced.assign records = .error mismatch) :
    mismatch = ⟨forced.ids, records.length⟩ := by
  unfold assign at h
  split at h
  next =>
    split at h
    next => simp at h
    next => exact (Except.error.inj h).symm
  next => exact (Except.error.inj h).symm

theorem assign_places (h : forced.assign records = .ok ids) :
    List.Forall₂ (fun record id => (record, id) ∈ forced.entries) records ids := by
  have hlookup := (assign_ok h).1
  clear h
  induction records generalizing ids with
  | nil =>
    cases ids with
    | nil => exact .nil
    | cons => simp at hlookup
  | cons record records ih =>
    cases ids with
    | nil => simp at hlookup
    | cons id ids =>
      obtain ⟨hid, hids⟩ := List.cons.inj hlookup
      exact .cons (mem_of_lookup hid) (ih hids)

/-- As many records as are forced, all of them forced, are just the forced ones unless some of them
are there twice. -/
theorem perm_records_iff (sub : records ⊆ forced.records)
    (length : records.length = forced.records.length) :
    records.Perm forced.records ↔ records.Nodup := by
  constructor
  · intro perm
    exact perm.nodup_iff.mpr forced.records_nodup
  · intro nodup
    have hsubperm := List.subperm_of_subset nodup sub
    exact hsubperm.perm_of_length_le (Nat.le_of_eq length.symm)

/-- Distinct records are assigned forced ids just when they are the forced ones. -/
theorem assign_isOk_iff_perm (nodup : records.Nodup) : (∃ ids, forced.assign records = .ok ids) ↔
    forced.Distinct ∧ records.Perm forced.records := by
  rw [assign_isOk_iff]
  refine and_congr_right fun _ => ⟨?_, fun perm => ⟨perm.subset, perm.length_eq⟩⟩
  rintro ⟨sub, length⟩
  exact (perm_records_iff sub length).mpr nodup

theorem ids_nodup_iff (h : forced.assign records = .ok ids) : ids.Nodup ↔ records.Nodup := by
  constructor
  · intro nodup
    have hmapped : (ids.map some).Nodup :=
      List.Nodup.map (fun _ _ => Option.some.inj) nodup
    rw [← (assign_ok h).1] at hmapped
    exact List.Nodup.of_map _ hmapped
  · intro nodup
    have seconds := List.map_snd_zip (Nat.le_of_eq (assign_length h).symm)
    rw [← seconds]
    exact ((zip_perm_of_assign h nodup).map Prod.snd).nodup_iff.mpr
      (distinct_iff.mpr (assign_ok h).2.2)

/-- Forced ids are assigned just when no two of them are equal and the records are the forced ones
in some order or, where records are repeated, as many as the forced ones and all of them forced.
Every record is then assigned its own forced id, and the assigned ids are different unless records
are repeated. Otherwise the mismatch tells the forced ids, ascending and without repetition, and the
number of the records. -/
theorem assign_exact (forced : ForcedIds level) (records : List level.Record) :
    ((∃ ids, forced.assign records = .ok ids) ↔
      forced.Distinct ∧ (records.Perm forced.records ∨
        ¬records.Nodup ∧ records ⊆ forced.records ∧
          records.length = forced.records.length)) ∧
    (∀ ids, forced.assign records = .ok ids →
      List.Forall₂ (fun record id => (record, id) ∈ forced.entries) records ids ∧
        (ids.Nodup ↔ records.Nodup)) ∧
    ∀ mismatch, forced.assign records = .error mismatch →
      mismatch.forced.Pairwise (· < ·) ∧
        (∀ id, id ∈ mismatch.forced ↔ id ∈ forced.entries.map Prod.snd) ∧
        mismatch.recordsToInsert = records.length := by
  refine ⟨assign_isOk_iff.trans ⟨?_, ?_⟩, fun ids h => ⟨assign_places h, ids_nodup_iff h⟩, ?_⟩
  · rintro ⟨distinct, sub, length⟩
    refine ⟨distinct, ?_⟩
    by_cases nodup : records.Nodup
    · exact Or.inl ((perm_records_iff sub length).mpr nodup)
    · exact Or.inr ⟨nodup, sub, length⟩
  · rintro ⟨distinct, perm | ⟨_, sub, length⟩⟩
    · exact ⟨distinct, perm.subset, perm.length_eq⟩
    · exact ⟨distinct, sub, length⟩
  · intro mismatch h
    rw [assign_error h]
    exact ⟨ascendingIds_pairwise _, fun _ => mem_ascending, rfl⟩

/-- Two texts with an id each. -/
def twoForced : ForcedIds .text := (ForcedIds.empty.insert "cat" 7).insert "dog" 9

/-- One of the two texts twice is taken for both of them, and its id is assigned twice. -/
theorem assign_repeated : twoForced.assign ["cat", "cat"] = .ok [7, 7] ∧
    ¬["cat", "cat"].Perm twoForced.records := by
  decide +kernel

end ForcedIds

end Termbase
