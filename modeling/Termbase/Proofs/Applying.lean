import Termbase.Proofs.Assigning

namespace Termbase

namespace Table

variable {ρ : Type}

/-- What has become of a record that was to have some id: it has got it, it had another one
already, or it has got a new one because the wanted id is another record's. -/
def Settles (table larger : Table ρ) (record : ρ) (wanted id : RowId) : Prop :=
  (id, record) ∈ larger.rows ∧ (id = wanted ∨ (id, record) ∈ table.rows ∨
    table.lastId < id ∧ ∃ other, other ≠ record ∧ (wanted, other) ∈ larger.rows)

variable [DecidableEq ρ] {table larger : Table ρ}

theorem insert_settles {record : ρ} {wanted : RowId}
    (h : table.insert record (some wanted) = some larger) :
    ∃ id, table.Settles larger record wanted id := by
  have kept := (insert_extends h).1
  by_cases there : record ∈ table.records
  · obtain ⟨id, hrow⟩ := mem_records.mp there
    exact ⟨id, kept.mem hrow, Or.inr (Or.inl hrow)⟩
  · rcases insert_forced h there with ⟨_, hrows⟩ | ⟨taken, next, hlt, hrows⟩
    · exact ⟨wanted, by simp [hrows], Or.inl rfl⟩
    · obtain ⟨other, hother⟩ := mem_ids.mp taken
      have different : other ≠ record := fun he => there (mem_records.mpr ⟨wanted, he ▸ hother⟩)
      exact ⟨next, by simp [hrows], Or.inr (Or.inr ⟨hlt, other, different, kept.mem hother⟩)⟩

theorem insertAll_settles {rows : List (ρ × RowId)}
    (h : table.insertAll (rows.map fun row => (row.1, some row.2)) = some larger)
    (distinct : (rows.map Prod.fst).Nodup) :
    ∀ row ∈ rows, ∃ id, table.Settles larger row.1 row.2 id := by
  induction rows generalizing table with
  | nil => simp
  | cons row rows ih =>
    obtain ⟨between, hinsert, hrest⟩ := insertAll_cons h
    obtain ⟨fresh, distinctRest⟩ := List.nodup_cons.mp (List.map_cons ▸ distinct)
    have first := (insert_extends hinsert).1
    have later := (insertAll_extends hrest).1
    intro other hother
    rcases List.mem_cons.mp hother with rfl | hother
    · obtain ⟨id, hrow, fate⟩ := insert_settles hinsert
      refine ⟨id, later.mem hrow, fate.imp_right (Or.imp_right ?_)⟩
      rintro ⟨hlt, owner, different, howner⟩
      exact ⟨hlt, owner, different, later.mem howner⟩
    · obtain ⟨id, hrow, fate⟩ := ih hrest distinctRest other hother
      refine ⟨id, hrow, fate.imp_right (Or.imp ?_ ?_)⟩
      · intro hbetween
        have different : other.1 ≠ row.1 :=
          fun he => fresh (List.mem_map.mpr ⟨other, hother, he⟩)
        exact (first.mem_or hbetween).resolve_right (by simpa using different)
      · rintro ⟨hlt, owner⟩
        exact ⟨Int64.lt_of_le_of_lt first.lastId_le hlt, owner⟩

/-- A record can only have got an id that nothing has kept it from having. -/
theorem Extends.admits {records : List ρ} (h : table.Extends larger records) {id : RowId}
    {record : ρ} (hrow : (id, record) ∈ larger.rows) : table.Admits id record := by
  by_cases there : (id, record) ∈ table.rows
  · exact Or.inl there
  · refine Or.inr ⟨fun hid => there ?_, fun hrecord => there ?_⟩
    · obtain ⟨other, hother⟩ := mem_ids.mp hid
      exact larger.record_unique (h.mem hother) hrow ▸ hother
    · obtain ⟨other, hother⟩ := mem_records.mp hrecord
      exact larger.id_unique (h.mem hother) hrow ▸ hother

end Table

/-- A record that the source does not know has the id of its row on the primary. -/
theorem Acquires.lookup_unknown {batch : BatchSize} {level : Level} {records : List level.Record}
    {forced : Option (ForcedIds level)} {known : Database} {storage after : Storage}
    {ids : RecordIds level}
    (h : Acquires batch level records forced known storage (.ok ids) after)
    {record : level.Record} (hrecord : record ∈ known.unknown level records) {id : RowId} :
    ids.entries.lookup record = some id ↔ (id, record) ∈ (after.primary.table level).rows := by
  obtain ⟨listed, absent⟩ := Database.mem_unknown.mp hrecord
  rw [h.lookup listed]
  constructor
  · rintro (hrow | ⟨_, hrow⟩)
    · exact absurd (Table.mem_records.mpr ⟨id, hrow⟩) absent
    · exact hrow
  · exact fun hrow => Or.inr ⟨absent, hrow⟩

theorem assignForced_fit_iff {level : Level} {forced : ForcedIds level}
    {records : List level.Record} :
    (assignForced (some forced) records).2 = none ↔ ∃ ids, forced.assign records = .ok ids := by
  unfold assignForced
  simp only
  split
  next ids h => simp [h]
  next mismatch h => simp [h]

/-- Forced ids are reported as unfit just when they are not for the records that the source does not
know, or not distinct. The primary has no say in it. If they are not reported, each of these records
has the id of its row on the primary. A record without its forced id had another id there before,
or has got a new one because the forced id is another record's. All records have their forced ids if
and only if nothing on the primary has stood in the way of any of them. -/
theorem forced_ids_applied_iff {batch : BatchSize} {source : Source} {level : Level}
    {records : List level.Record} {forced : ForcedIds level} {storage after : Storage}
    {ids : RecordIds level} (distinct : records.Nodup)
    (run : (acquireIds batch source level records (some forced)).run storage = (.ok ids, after)) :
    let unknown := (storage.database source).unknown level records
    let before := storage.primary.table level
    (records ≠ [] → (ids.mismatch = none ↔ forced.Distinct ∧ unknown.Perm forced.records)) ∧
    (ids.mismatch = none →
      (∀ record ∈ unknown, ∃ wanted id, (record, wanted) ∈ forced.entries ∧
        ids.entries.lookup record = some id ∧
        before.Settles (after.primary.table level) record wanted id) ∧
      ((∀ record ∈ unknown, ∀ wanted, (record, wanted) ∈ forced.entries →
          ids.entries.lookup record = some wanted) ↔
        ∀ record ∈ unknown, ∀ wanted, (record, wanted) ∈ forced.entries →
          before.Admits wanted record)) := by
  intro unknown before
  have acquires := acquireIds_acquires run
  refine ⟨fun listed => ?_, fun unreported => ?_⟩
  · rw [acquires.mismatch_eq listed, assignForced_fit_iff]
    exact ForcedIds.assign_isOk_iff_perm (distinct.sublist List.filter_sublist)
  rcases eq_or_ne unknown [] with nothing | some
  · simp [nothing]
  obtain ⟨_, rows, keys, perm, hinsert⟩ := acquires.inserted_forced unreported distinct some
  refine ⟨fun record hrecord => ?_, fun applied record hrecord wanted hwanted => ?_,
    fun admits record hrecord wanted hwanted => ?_⟩
  · have hkey : record ∈ rows.map Prod.fst := keys ▸ hrecord
    obtain ⟨row, hrow, rfl⟩ := List.mem_map.mp hkey
    obtain ⟨id, settled⟩ := Table.insertAll_settles hinsert
      ((perm.map Prod.fst).nodup_iff.mpr forced.records_nodup) row hrow
    exact ⟨row.2, id, perm.mem_iff.mp hrow, (acquires.lookup_unknown hrecord).mpr settled.1, settled⟩
  · have hrow := (acquires.lookup_unknown hrecord).mp (applied record hrecord wanted hwanted)
    exact (Table.insertAll_extends hinsert).1.admits hrow
  · refine (acquires.lookup_unknown hrecord).mpr
      (acquires.admitted unreported distinct (fun entry hentry => ?_) some hwanted)
    have hkey : entry.1 ∈ rows.map Prod.fst := List.mem_map.mpr ⟨entry, perm.mem_iff.mpr hentry, rfl⟩
    rw [keys] at hkey
    exact admits entry.1 hkey entry.2 hentry

/-- One text has the first id, and the replica knows nothing. -/
def takenStorage : Storage :=
  ⟨{ Database.empty with text := Table.empty.insertAt 1 "dog" }, Database.empty⟩

def takenRun : Except Failure (RecordIds .text) × Storage :=
  (acquireIds ⟨1, Nat.one_pos⟩ .replica .text ["cat", "cow", "ant"]
    (some (((ForcedIds.empty.insert "cat" 1).insert "cow" 2).insert "ant" 9))).run takenStorage

/-- The id that the second text is to have is free before the call. The first text gets it when its
own forced id turns out to be taken. -/
theorem forced_ids_applied_iff_taken :
    takenRun.1.map (fun ids => (ids.entries, ids.mismatch)) =
      .ok ([("cat", 2), ("cow", 3), ("ant", 9)], none) ∧
    takenStorage.primary.text.Admits 2 "cow" ∧
    takenStorage.primary.text.Settles takenRun.2.primary.text "cow" 2 3 ∧
    ¬∀ record ∈ ["cat", "cow", "ant"], ∀ wanted,
      (record, wanted) ∈ [("cat", (1 : RowId)), ("cow", 2), ("ant", 9)] →
        takenStorage.primary.text.Admits wanted record := by
  have given : takenRun.1.map (fun ids => (ids.entries, ids.mismatch)) =
      .ok ([("cat", 2), ("cow", 3), ("ant", 9)], none) := by decide +kernel
  have free : takenStorage.primary.text.Admits 2 "cow" := Or.inr (by decide +kernel)
  refine ⟨given, free, ?_⟩
  rcases hrun : takenRun with ⟨failure | ids, after⟩
  · rw [hrun] at given
    simp [Except.map] at given
  rw [hrun] at given
  obtain ⟨hentries, hmismatch⟩ := Prod.mk.inj (Except.ok.inj given)
  obtain ⟨settled, applied⟩ := (forced_ids_applied_iff (by decide) hrun).2 hmismatch
  obtain ⟨wanted, id, hwanted, hid, fate⟩ := settled "cow" (by decide)
  have two : wanted = 2 := single_of_nodup_keys (ForcedIds.records_nodup _) hwanted (by decide)
  have three : id = 3 := by
    rw [hentries] at hid
    exact (Option.some.inj hid).symm
  subst two three
  refine ⟨fate, fun admits => ?_⟩
  have got := applied.mpr admits "cat" (by decide) 1 (by decide)
  rw [hentries] at got
  exact absurd got (by decide)

/-- A text whose forced id is another text's gets a new id, and nothing is reported. -/
theorem forced_id_dropped :
    takenStorage.replica.unknown .text ["cat"] = ["cat"] ∧
    ((acquireIds ⟨1, Nat.one_pos⟩ .replica .text ["cat"]
        (some (ForcedIds.empty.insert "cat" 1))).run takenStorage).1.map
      (fun ids => (ids.entries, ids.mismatch)) = .ok ([("cat", 2)], none) := by
  decide +kernel

end Termbase
