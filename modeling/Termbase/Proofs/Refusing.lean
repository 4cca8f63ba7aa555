import Termbase.Proofs.Forcing

namespace Termbase

/-- The records of a level all point at the same level, if at any. -/
theorem Level.parent?_level {level : Level} {first second : level.Record}
    {parent other : Level × RowId} (hfirst : level.parent? first = some parent)
    (hsecond : level.parent? second = some other) : parent.1 = other.1 := by
  cases level with
  | text => simp [parent?] at hfirst
  | textInLang =>
    rw [← Option.some.inj hfirst, ← Option.some.inj hsecond]
  | termInLang =>
    rw [← Option.some.inj hfirst, ← Option.some.inj hsecond]

namespace Database

variable {db : Database} {batch : BatchSize} {level parent : Level}

/-- Some of the records points at a row that is not there. -/
def LacksParent (db : Database) (level : Level) (records : List level.Record) (parent : Level)
    (id : RowId) : Prop :=
  id ∉ (db.table parent).ids ∧ ∃ record ∈ records, level.parent? record = some (parent, id)

theorem LacksParent.level_eq {records : List level.Record} {other : Level} {id otherId : RowId}
    (h : db.LacksParent level records parent id)
    (hother : db.LacksParent level records other otherId) : other = parent := by
  obtain ⟨_, record, _, hrecord⟩ := h
  obtain ⟨_, otherRecord, _, hotherRecord⟩ := hother
  exact Level.parent?_level hotherRecord hrecord

theorem missingParents_eq_some {parents : List (Level × RowId)} {ids : List RowId}
    (h : db.missingParents batch parents = some (parent, ids)) :
    ids ≠ [] ∧ ids.Pairwise (· < ·) ∧
      ∀ id, id ∈ ids ↔ (parent, id) ∈ parents ∧ id ∉ (db.table parent).ids := by
  obtain ⟨level, _, hlevel⟩ := List.exists_of_findSome?_eq_some h
  simp only at hlevel
  split at hlevel
  next => simp at hlevel
  next hne =>
    obtain ⟨rfl, rfl⟩ := Prod.mk.inj (Option.some.inj hlevel)
    refine ⟨fun hnil => hne hnil, (ascendingIds_pairwise _).filter _, fun id => ?_⟩
    rw [mem_absentIds, mem_parentIds]

/-- A refusal names what is missing, all of it and nothing else. -/
theorem insertRecords_refused {rows : List (level.Record × Option RowId)} {ids : List RowId}
    (h : db.insertRecords batch level rows = .error (.missingParent parent ids)) :
    ids ≠ [] ∧ ids.Pairwise (· < ·) ∧
      ∀ id, id ∈ ids ↔ db.LacksParent level (rows.map Prod.fst) parent id := by
  unfold insertRecords at h
  split at h
  next _ _ hmissing =>
    cases Except.error.inj h
    obtain ⟨hne, hordered, hmem⟩ := missingParents_eq_some hmissing
    refine ⟨hne, hordered, fun id => (hmem id).trans ⟨?_, ?_⟩⟩
    · rintro ⟨hparent, habsent⟩
      obtain ⟨row, hrow, he⟩ := List.mem_filterMap.mp hparent
      exact ⟨habsent, row.1, List.mem_map.mpr ⟨row, hrow, rfl⟩, he⟩
    · rintro ⟨habsent, record, hrecord, he⟩
      obtain ⟨row, hrow, rfl⟩ := List.mem_map.mp hrecord
      exact ⟨List.mem_filterMap.mpr ⟨row, hrow, he⟩, habsent⟩
  next =>
    split at h
    next => simp at h
    next => simp at h

theorem insertRecords_of_lacksParent {rows : List (level.Record × Option RowId)} {id : RowId}
    (lacks : db.LacksParent level (rows.map Prod.fst) parent id) :
    ∃ other ids, db.insertRecords batch level rows = .error (.missingParent other ids) := by
  obtain ⟨habsent, record, hrecord, he⟩ := lacks
  obtain ⟨row, hrow, rfl⟩ := List.mem_map.mp hrecord
  unfold insertRecords
  split
  next other ids _ => exact ⟨other, ids, rfl⟩
  next hnone =>
    have hparents := missingParents_eq_none.mp hnone
    exact absurd (hparents _ (List.mem_filterMap.mpr ⟨row, hrow, he⟩)) habsent

end Database

namespace Acquires

variable {batch : BatchSize} {level : Level} {records : List level.Record}
  {forced : Option (ForcedIds level)} {known : Database} {storage after : Storage}

theorem of_missingParent {parent : Level} {ids : List RowId}
    (h : Acquires batch level records forced known storage (.error (.missingParent parent ids))
      after) :
    storage.primary.insertRecords batch level
        (forcedRows forced (known.unknown level records)) = .error (.missingParent parent ids) ∧
      after = storage := by
  cases h with
  | refused hinsert => exact ⟨hinsert, rfl⟩

theorem eq_error {outcome : Except Failure (RecordIds level)} {failure : Failure}
    (h : Acquires batch level records forced known storage outcome after)
    (admits : batch.Admits level records.length) (some : known.unknown level records ≠ [])
    (hinsert : storage.primary.insertRecords batch level
      (forcedRows forced (known.unknown level records)) = .error failure) :
    outcome = .error failure := by
  cases h with
  | nothing hnil =>
    subst hnil
    exact absurd rfl some
  | known _ hnil => exact absurd hnil some
  | declined declined => exact absurd admits declined
  | refused hother => rw [Except.error.inj (hother.symm.trans hinsert)]
  | incomplete hother => cases hother.symm.trans hinsert
  | inserted _ hother => cases hother.symm.trans hinsert

end Acquires

/-- Giving ids is refused for a missing parent just when no statement that looks for the records is
too deep and a record that the source does not know points at a row that is not there on the
primary. The refusal names the level of the missing rows and all of their ids, ascending and without
repetition. Nothing has happened then, and nothing has happened when a statement is too deep. -/
theorem refusal_exact (batch : BatchSize) (source : Source) (level : Level)
    (records : List level.Record) (forced : Option (ForcedIds level)) (storage : Storage) :
    let unknown := (storage.database source).unknown level records
    let run := (acquireIds batch source level records forced).run storage
    ((∃ parent ids, run.1 = .error (.missingParent parent ids)) ↔
      batch.Admits level records.length ∧
        ∃ parent id, storage.primary.LacksParent level unknown parent id) ∧
    (∀ parent ids, run.1 = .error (.missingParent parent ids) →
      ids.Pairwise (· < ·) ∧
        (∀ other id, storage.primary.LacksParent level unknown other id ↔
          other = parent ∧ id ∈ ids) ∧
        run.2 = storage) ∧
    (run.1 = .error .statementTooDeep ↔ ¬batch.Admits level records.length) ∧
    (run.1 = .error .statementTooDeep → run.2 = storage) := by
  intro unknown run
  have acquires : Acquires batch level records forced (storage.database source) storage
    run.1 run.2 := acquireIds_acquires rfl
  have rows : (forcedRows forced unknown).map Prod.fst = unknown := forcedRows_records _ _
  have deep : run.1 = .error .statementTooDeep ↔ ¬batch.Admits level records.length :=
    acquireIds_tooDeep_iff
  have refused : ∀ parent ids, run.1 = .error (.missingParent parent ids) →
      run.2 = storage ∧ ids ≠ [] ∧ ids.Pairwise (· < ·) ∧
        ∀ id, id ∈ ids ↔ storage.primary.LacksParent level unknown parent id := by
    intro parent ids h
    rw [h] at acquires
    obtain ⟨hinsert, hafter⟩ := acquires.of_missingParent
    have named := Database.insertRecords_refused hinsert
    rw [rows] at named
    exact ⟨hafter, named⟩
  refine ⟨⟨?_, ?_⟩, fun parent ids h => ?_, deep, fun h => ?_⟩
  · rintro ⟨parent, ids, h⟩
    obtain ⟨_, hne, _, hmem⟩ := refused parent ids h
    obtain ⟨id, hid⟩ := List.exists_mem_of_ne_nil ids hne
    refine ⟨Decidable.not_not.mp fun declined => ?_, parent, id, (hmem id).mp hid⟩
    cases h.symm.trans (deep.mpr declined)
  · rintro ⟨admits, parent, id, lacks⟩
    have some : unknown ≠ [] := by
      obtain ⟨_, record, hrecord, _⟩ := lacks
      exact List.ne_nil_of_mem hrecord
    rw [← rows] at lacks
    obtain ⟨other, ids, hinsert⟩ := @Database.insertRecords_of_lacksParent _ batch _ _ _ _ lacks
    exact ⟨other, ids, acquires.eq_error admits some hinsert⟩
  · obtain ⟨hafter, _, hordered, hmem⟩ := refused parent ids h
    refine ⟨hordered, fun other id => ⟨fun lacks => ?_, ?_⟩, hafter⟩
    · obtain ⟨_, hne, _, _⟩ := refused parent ids h
      obtain ⟨first, hfirst⟩ := List.exists_mem_of_ne_nil ids hne
      obtain rfl := ((hmem first).mp hfirst).level_eq lacks
      exact ⟨rfl, (hmem id).mpr lacks⟩
    · rintro ⟨rfl, hid⟩
      exact (hmem id).mp hid
  · exact congrArg Prod.snd (acquireIds_declined (deep.mp h))

def orphanPhrases : List TextInLang :=
  (List.range 999).map fun n => ⟨Int64.ofNat (n + 1), "en"⟩

/-- Texts are missing, but the statement that looks for all the records at once is too deep. -/
theorem refusal_preempted :
    let storage : Storage := ⟨Database.empty, Database.empty⟩
    let unknown := storage.primary.unknown .textInLang orphanPhrases
    storage.primary.LacksParent .textInLang unknown .text 1 ∧
      ((acquireIds ⟨1000, by decide⟩ .primary .textInLang orphanPhrases none).run storage).1 =
        .error .statementTooDeep := by
  intro storage unknown
  have first : (⟨1, "en"⟩ : TextInLang) ∈ orphanPhrases :=
    List.mem_map.mpr ⟨0, List.mem_range.mpr (by decide), rfl⟩
  refine ⟨⟨List.not_mem_nil, ⟨1, "en"⟩, ?_, rfl⟩, ?_⟩
  · exact Database.mem_unknown.mpr ⟨first, List.not_mem_nil⟩
  · have length : orphanPhrases.length = 999 := by simp [orphanPhrases]
    exact acquireIds_tooDeep_iff.mpr (by rw [length]; decide)

-- Batches of one record: the refusal covers all batches, and the row with a parent is not added.
example :
    let storage : Storage :=
      ⟨{ Database.empty with text := Table.empty.insertAt 1 "dog" }, Database.empty⟩
    let run := (acquireIds ⟨1, Nat.one_pos⟩ .primary .textInLang
      [⟨7, "en"⟩, ⟨1, "en"⟩, ⟨5, "en"⟩, ⟨7, "de"⟩] none).run storage
    run.1.map RecordIds.entries = .error (.missingParent .text [5, 7]) ∧
      run.2.primary.textInLang.rows = [] := by
  decide +kernel

end Termbase
