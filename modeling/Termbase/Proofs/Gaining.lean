import Termbase.Proofs.Agreement
import Termbase.Proofs.Assigning
import Termbase.Proofs.Timeline

namespace Termbase

/-- The second table has the rows of the first one and, behind them, one new row for each of the
records. The new ids ascend and are larger than all that have been used before. -/
structure Table.Gains {ρ : Type} (table larger : Table ρ) (records : List ρ) : Prop where
  lastId_le : table.lastId ≤ larger.lastId
  rows : ∃ added, larger.rows = table.rows ++ added ∧ added.map Prod.snd = records ∧
    (added.map Prod.fst).Pairwise (· < ·) ∧ ∀ row ∈ added, table.lastId < row.1

namespace Table.Gains

variable {ρ : Type} {table larger : Table ρ} {records : List ρ}

theorem refl (table : Table ρ) : table.Gains table [] :=
  ⟨Int64.le_refl _, [], by simp⟩

theorem trans {a b c : Table ρ} {first second : List ρ} (hab : a.Gains b first)
    (hbc : b.Gains c second) : a.Gains c (first ++ second) := by
  obtain ⟨front, hfront, hfirst, hascending, habove⟩ := hab.rows
  obtain ⟨back, hback, hsecond, hascending', habove'⟩ := hbc.rows
  refine ⟨Int64.le_trans hab.lastId_le hbc.lastId_le, front ++ back, ?_, ?_, ?_, ?_⟩
  · rw [hback, hfront, List.append_assoc]
  · rw [List.map_append, hfirst, hsecond]
  · rw [List.map_append]
    refine List.pairwise_append.mpr ⟨hascending, hascending', fun id hid other hother => ?_⟩
    obtain ⟨row, hrow, rfl⟩ := List.mem_map.mp hid
    obtain ⟨otherRow, hotherRow, rfl⟩ := List.mem_map.mp hother
    have hle : row.1 ≤ b.lastId :=
      b.ids_le_lastId row (hfront ▸ List.mem_append_right _ hrow)
    exact Int64.lt_of_le_of_lt hle (habove' otherRow hotherRow)
  · intro row hrow
    rcases List.mem_append.mp hrow with hrow | hrow
    · exact habove row hrow
    · exact Int64.lt_of_le_of_lt hab.lastId_le (habove' row hrow)

/-- A row that has been gained is not one that was there. -/
theorem lastId_lt (h : table.Gains larger records) {row : RowId × ρ} (hrow : row ∈ larger.rows)
    (fresh : row ∉ table.rows) : table.lastId < row.1 := by
  obtain ⟨added, hrows, _, _, habove⟩ := h.rows
  rw [hrows] at hrow
  exact habove row ((List.mem_append.mp hrow).resolve_left fresh)

variable [DecidableEq ρ]

theorem insert {record : ρ} (h : table.insert record none = some larger) :
    table.Gains larger (if record ∈ table.records then [] else [record]) := by
  obtain ⟨hle, ⟨there, hrows⟩ | ⟨absent, id, hlt, _, hrows⟩⟩ := insertNext_cases h
  · rw [if_pos there]
    exact ⟨hle, [], by simp [hrows], rfl, List.Pairwise.nil, by simp⟩
  · rw [if_neg absent]
    exact ⟨hle, [(id, record)], hrows, rfl, List.pairwise_singleton _ _, by simpa using hlt⟩

/-- Adding distinct records is gaining those that are not there yet. -/
theorem insertAll (h : table.insertAll (records.map fun record => (record, none)) = some larger)
    (distinct : records.Nodup) :
    table.Gains larger (records.filter fun record => record ∉ table.records) := by
  induction records generalizing table with
  | nil =>
    cases Option.some.inj h
    exact .refl _
  | cons record records ih =>
    obtain ⟨between, hinsert, hrest⟩ := insertAll_cons h
    obtain ⟨fresh, distinctRest⟩ := List.nodup_cons.mp distinct
    have first := insert hinsert
    -- The record that has been added is none of those that are still to come.
    have kept : (records.filter fun other => other ∉ between.records) =
        records.filter fun other => other ∉ table.records := by
      obtain ⟨added, hrows, hadded, _, _⟩ := first.rows
      refine List.filter_congr fun other hother => decide_eq_decide.mpr (not_congr ?_)
      have hne : other ≠ record := fun he => fresh (he ▸ hother)
      have none : other ∉ added.map Prod.snd := by
        rw [hadded]
        split <;> simp [hne]
      unfold Table.records
      rw [hrows, List.map_append, List.mem_append]
      exact or_iff_left none
    have both := first.trans (kept ▸ ih hrest distinctRest)
    rw [List.filter_cons]
    split at both
    next there => simpa [there] using both
    next absent => simpa [absent] using both

end Table.Gains

/-- The primary has gained rows for records of one level, and nothing else is different. -/
structure Storage.Gains (storage : Storage) (level : Level) (records : List level.Record)
    (after : Storage) : Prop where
  table : (storage.primary.table level).Gains (after.primary.table level) records
  others : ∀ other, other ≠ level → after.primary.table other = storage.primary.table other
  links : ∀ kind, after.primary.links kind = storage.primary.links kind
  typeCodes : after.primary.typeCodes = storage.primary.typeCodes
  replica : after.replica = storage.replica

namespace Acquires

variable {batch : BatchSize} {level : Level} {records : List level.Record}
  {forced : Option (ForcedIds level)} {known : Database} {storage after : Storage}
  {ids : RecordIds level}

/-- Without forced ids there are new rows just for the records that neither side knows. -/
theorem gains (h : Acquires batch level records none known storage (.ok ids) after)
    (distinct : records.Nodup) :
    storage.Gains level (storage.primary.unknown level (known.unknown level records)) after := by
  have grows := h.grows
  refine ⟨?_, fun other different => h.other different, grows.links, grows.typeCodes,
    grows.replica⟩
  cases h with
  | nothing hnil =>
    subst hnil
    exact .refl _
  | known _ hnil =>
    rw [hnil]
    exact .refl _
  | inserted _ hinsert =>
    obtain ⟨_, table, htable, rfl⟩ := Database.insertRecords_ok hinsert
    rw [forcedRows_none] at htable
    rw [Database.table_withTable]
    exact .insertAll htable (distinct.sublist List.filter_sublist)

theorem keys_perm (h : Acquires batch level records forced known storage (.ok ids) after)
    (distinct : records.Nodup) : (ids.entries.map Prod.fst).Perm records := by
  have keys : (ids.entries.map Prod.fst).Nodup := by
    cases h with
    | nothing => exact List.nodup_nil
    | known => exact firstPerKey_keys_nodup _
    | inserted => exact Database.idsOf_append_nodup _ _ _
  refine (List.perm_ext_iff_of_nodup keys distinct).mpr fun record => ⟨fun hkey => ?_, ?_⟩
  · obtain ⟨entry, hentry, rfl⟩ := List.mem_map.mp hkey
    cases h with
    | nothing => simp [RecordIds.empty] at hentry
    | known => exact (Database.mem_idsOf.mp hentry).1
    | inserted =>
      rcases List.mem_append.mp hentry with hentry | hentry
      · exact (Database.mem_idsOf.mp hentry).1
      · exact (Database.mem_unknown.mp (Database.mem_idsOf.mp hentry).1).1
  · intro hrecord
    obtain ⟨id, hid⟩ := h.found hrecord
    exact key_mem_of_lookup hid

end Acquires

/-- Forced ids that come to the same for the records to insert make a difference to the report
only. -/
theorem acquireIds_run_eq {batch : BatchSize} {source : Source} {level : Level}
    {records : List level.Record} (some : records ≠ []) {forced other : Option (ForcedIds level)}
    {storage : Storage}
    (same : (assignForced forced ((storage.database source).unknown level records)).1 =
      (assignForced other ((storage.database source).unknown level records)).1) :
    let run := (acquireIds batch source level records forced).run storage
    (acquireIds batch source level records other).run storage =
      (run.1.map fun ids => { ids with
        mismatch := (assignForced other ((storage.database source).unknown level records)).2 },
        run.2) := by
  have rows : forcedRows forced ((storage.database source).unknown level records) =
      forcedRows other ((storage.database source).unknown level records) := by
    unfold forcedRows
    rw [same]
  by_cases admits : batch.Admits level records.length
  · rw [acquireIds_run admits some, acquireIds_run admits some, rows]
    by_cases known : (storage.database source).unknown level records = []
    · rw [if_pos known, if_pos known]
      rfl
    · rw [if_neg known, if_neg known]
      cases storage.primary.insertRecords batch level
          (forcedRows other ((storage.database source).unknown level records)) with
      | error failure => rfl
      | ok result =>
        simp only
        split
        next => rfl
        next => rfl
  · rw [acquireIds_declined admits, acquireIds_declined admits]
    rfl

/-- A call whose forced ids are not used is the same call without them. -/
theorem acquireIds_unforced {batch : BatchSize} {source : Source} {level : Level}
    {records : List level.Record} {forced : ForcedIds level} {storage after : Storage}
    {ids : RecordIds level} {mismatch : ForcedMismatch}
    (run : (acquireIds batch source level records (some forced)).run storage = (.ok ids, after))
    (reported : ids.mismatch = some mismatch) :
    forced.assign ((storage.database source).unknown level records) = .error mismatch ∧
      (acquireIds batch source level records none).run storage =
        (.ok { ids with mismatch := none }, after) := by
  have some : records ≠ [] := by
    rintro rfl
    cases run
    simp [RecordIds.empty] at reported
  have assigned := (acquireIds_acquires run).mismatch_eq some
  rw [reported] at assigned
  have failed : forced.assign ((storage.database source).unknown level records) =
      .error mismatch := by
    unfold assignForced at assigned
    simp only at assigned
    split at assigned
    next => simp at assigned
    next _ hassign => rw [hassign, Option.some.inj assigned]
  have same : (assignForced (Option.some forced) ((storage.database source).unknown level
      records)).1 = (assignForced none ((storage.database source).unknown level records)).1 := by
    unfold assignForced
    simp only [failed]
  refine ⟨failed, ?_⟩
  rw [acquireIds_run_eq some same, run]
  rfl

section History

/-- No table of the primary takes back that an id has been used. -/
def Storage.Outlasts (storage after : Storage) : Prop :=
  ∀ level, (storage.primary.table level).lastId ≤ (after.primary.table level).lastId

theorem Storage.Outlasts.refl (storage : Storage) : storage.Outlasts storage :=
  fun _ => Int64.le_refl _

theorem Storage.Outlasts.trans (a b c : Storage) (hab : a.Outlasts b) (hbc : b.Outlasts c) :
    a.Outlasts c :=
  fun level => Int64.le_trans (hab level) (hbc level)

theorem Storage.Outlasts.of_eq {storage after : Storage}
    (h : ∀ level, (after.primary.table level).lastId = (storage.primary.table level).lastId) :
    storage.Outlasts after :=
  fun level => Int64.le_of_eq (h level).symm

theorem acquireIds_outlasts (batch : BatchSize) (source : Source) (level : Level)
    (records : List level.Record) (forced : Option (ForcedIds level)) :
    (acquireIds batch source level records forced).Within Storage.Outlasts :=
  fun storage => (acquireIds_grows batch source level records forced storage).lastId_le

theorem replaceLinks_outlasts (entity : EntityId) (ids : List RowId) :
    (replaceLinks entity ids).Within Storage.Outlasts := by
  refine .transact .refl fun _ _ _ h => .of_eq fun level => ?_
  rw [← (Prod.mk.inj (Except.ok.inj h)).2, Database.table_withLinks]

theorem removeLinks_outlasts (entity : EntityId) :
    (removeLinks entity).Within Storage.Outlasts := by
  refine .transact .refl fun _ _ _ h => .of_eq fun level => ?_
  rw [← (Prod.mk.inj (Except.ok.inj h)).2, Database.table_withLinks]

theorem clean_outlasts (batch : BatchSize) (ids : List RowId) :
    (clean batch ids).Within Storage.Outlasts :=
  clean_within .refl (fun _ _ => .of_eq fun level => Database.lastId_clean level) ids

theorem registerTypes_outlasts (types : List TermType) :
    (registerTypes types).Within Storage.Outlasts := by
  refine registerTypes_within .refl .trans (fun storage codes => .of_eq fun level => ?_) types
  cases level <;> rfl

/-- The primary has had a row with this id at some moment of the run. -/
def Timeline.HasUsed (timeline : Timeline) (level : Level) (id : RowId) : Prop :=
  ∃ db ∈ timeline.storage.primary :: timeline.past, id ∈ (db.table level).ids

/-- Each table remembers the largest of all ids that it has had. -/
def Timeline.Outlasting (timeline : Timeline) : Prop :=
  ∀ level id, timeline.HasUsed level id → id ≤ (timeline.storage.primary.table level).lastId

namespace Timeline.Outlasting

theorem start (codes : Table String) (replica : Database) :
    (Timeline.start codes replica).Outlasting := by
  have nothing : ∀ level, (({ Database.empty with typeCodes := codes } : Database).table
      level).ids = [] := by
    intro level
    cases level <;> rfl
  rintro level id ⟨db, hdb, hid⟩
  have started : db = { Database.empty with typeCodes := codes } := by
    simpa [Timeline.start] using hdb
  rw [started, nothing] at hid
  simp at hid

theorem noted {timeline : Timeline} (h : timeline.Outlasting) : timeline.noted.Outlasting := by
  rintro level id ⟨db, hdb, hid⟩
  refine h level id ⟨db, ?_, hid⟩
  rcases List.mem_cons.mp hdb with rfl | hdb
  · exact List.mem_cons_self
  · exact hdb

theorem stored (timeline : Timeline) (after : Storage) (outlasts : timeline.storage.Outlasts after)
    (h : timeline.Outlasting) : ({ timeline with storage := after } : Timeline).Outlasting := by
  rintro level id ⟨db, hdb, hid⟩
  rcases List.mem_cons.mp hdb with rfl | hdb
  · obtain ⟨record, hrow⟩ := Table.mem_ids.mp hid
    exact (after.primary.table level).ids_le_lastId _ hrow
  · exact Int64.le_trans (h level id ⟨db, List.mem_cons_of_mem _ hdb, hid⟩) (outlasts level)

end Timeline.Outlasting

theorem runs_outlasting : LedBy (fun _ => True)
    (fun timeline after => timeline.Outlasting → after.Outlasting) := by
  refine .of_actions (fun _ h => h) (fun _ _ _ hab hbc h => hbc (hab h)) (fun _ h => h.noted)
    Storage.Outlasts.refl Storage.Outlasts.trans Timeline.Outlasting.stored
    (fun _ _ _ _ _ _ _ _ => trivial)
    (fun _ store _ _ => internFrom_within Storage.Outlasts.refl Storage.Outlasts.trans
      fun source level records forced _ =>
        acquireIds_outlasts store.batch source level records forced)
    (fun batch source level records forced _ =>
      acquireIds_outlasts batch source level records forced)
    (fun _ entity _ _ => replaceLinks_outlasts entity) (fun _ entity _ => removeLinks_outlasts entity)
    clean_outlasts registerTypes_outlasts (fun _ _ h => h)

/-- The primary has had a row with this id at some moment of a run that has led here. -/
def Storage.HasUsed (storage : Storage) (level : Level) (id : RowId) : Prop :=
  ∃ operations codes replica,
    let timeline := ((performAll operations).run (Timeline.start codes replica)).2
    timeline.storage = storage ∧ timeline.HasUsed level id

theorem Storage.HasUsed.le_lastId {storage : Storage} {level : Level} {id : RowId}
    (h : storage.HasUsed level id) : id ≤ (storage.primary.table level).lastId := by
  obtain ⟨operations, codes, replica, here, used⟩ := h
  have outlasting := runs_outlasting.performAll operations (fun _ _ => trivial)
    (Timeline.start codes replica) (.start codes replica)
  rw [← here]
  exact outlasting level id used

end History

/-- Without forced ids, a call for distinct records gives ids to just these records: those of the
source where it knows them and those of the primary where it does not. The records that neither
knows, and nothing else, have got rows of their own, with ids beyond all that the primary has ever
used. With forced ids that are reported not to fit, all of this is the same. -/
theorem acquireIds_exact {batch : BatchSize} {source : Source} {level : Level}
    {records : List level.Record} {storage : Storage} (distinct : records.Nodup) :
    let known := storage.database source
    let unknown := known.unknown level records
    (∀ ids after, (acquireIds batch source level records none).run storage = (.ok ids, after) →
      (ids.entries.map Prod.fst).Perm records ∧
      (∀ record ∈ records, ∀ id, ids.entries.lookup record = some id ↔
        (id, record) ∈ (known.table level).rows ∨
          record ∉ (known.table level).records ∧
            (id, record) ∈ (after.primary.table level).rows) ∧
      storage.Gains level (storage.primary.unknown level unknown) after ∧
      ∀ used, storage.HasUsed level used → ∀ row ∈ (after.primary.table level).rows,
        row ∉ (storage.primary.table level).rows → used < row.1) ∧
    ∀ forced ids mismatch after,
      (acquireIds batch source level records (some forced)).run storage = (.ok ids, after) →
      ids.mismatch = some mismatch →
        (acquireIds batch source level records none).run storage =
          (.ok { ids with mismatch := none }, after) ∧
        mismatch.forced.Pairwise (· < ·) ∧
        (∀ id, id ∈ mismatch.forced ↔ id ∈ forced.entries.map Prod.snd) ∧
        mismatch.recordsToInsert = unknown.length := by
  intro known unknown
  refine ⟨fun ids after run => ?_, fun forced ids mismatch after run reported => ?_⟩
  · have acquires := acquireIds_acquires run
    have gains := acquires.gains distinct
    refine ⟨acquires.keys_perm distinct, fun record hrecord id => acquires.lookup hrecord, gains,
      fun used hused row hrow fresh => ?_⟩
    exact Int64.lt_of_le_of_lt hused.le_lastId (gains.table.lastId_lt hrow fresh)
  · obtain ⟨failed, unforced⟩ := acquireIds_unforced run reported
    rw [ForcedIds.assign_error failed]
    exact ⟨unforced, ascendingIds_pairwise _, fun _ => mem_ascending, rfl⟩

/-- The primary has two texts, and the replica has another one that the primary does not have. -/
def mixedStorage : Storage :=
  ((performAll [.acquireIds ⟨1, Nat.one_pos⟩ .primary .text ["dog", "cow"] none,
    .distort { Database.empty with text := Table.empty.insertAt 7 "cat" }]).run
      (Timeline.start Table.empty Database.empty)).2.storage

/-- The replica knows the first text, the primary the second one and neither the other two. -/
def mixedTexts : List String := ["cat", "cow", "ant", "bee"]

def mixedRun : Except Failure (RecordIds .text) × Storage :=
  (acquireIds ⟨1, Nat.one_pos⟩ .replica .text mixedTexts
    (some (ForcedIds.empty.insert "ant" 9))).run mixedStorage

/-- The text that only the primary knows uses up the id 3, and the forced id is one for three
records. -/
theorem acquireIds_exact_mixed :
    mixedRun.1.map RecordIds.mismatch = .ok (some ⟨[9], 3⟩) ∧
    (acquireIds ⟨1, Nat.one_pos⟩ .replica .text mixedTexts none).run mixedStorage =
      (.ok ⟨[("cat", 7), ("cow", 2), ("ant", 4), ("bee", 5)], none⟩, mixedRun.2) ∧
    mixedStorage.Gains .text ["ant", "bee"] mixedRun.2 ∧
    (4, "ant") ∈ mixedRun.2.primary.text.rows ∧ mixedStorage.HasUsed .text 2 := by
  have reported : mixedRun.1.map RecordIds.mismatch = .ok (some ⟨[9], 3⟩) := by decide +kernel
  have entries : mixedRun.1.map RecordIds.entries =
      .ok [("cat", 7), ("cow", 2), ("ant", 4), ("bee", 5)] := by decide +kernel
  have gained : mixedStorage.primary.unknown .text
      (mixedStorage.replica.unknown .text mixedTexts) = ["ant", "bee"] := by decide +kernel
  have unknown : "ant" ∉ (mixedStorage.replica.table .text).records := by decide +kernel
  have used : mixedStorage.HasUsed .text 2 :=
    ⟨_, _, _, rfl, _, List.mem_cons_self, by decide +kernel⟩
  obtain ⟨unforced, forced⟩ := @acquireIds_exact ⟨1, Nat.one_pos⟩ .replica .text mixedTexts
    mixedStorage (by decide)
  refine ⟨reported, ?_⟩
  rcases hrun : mixedRun with ⟨failure | ids, after⟩
  · rw [hrun] at entries
    simp [Except.map] at entries
  rw [hrun] at reported entries
  have run := (forced _ ids _ after hrun (Except.ok.inj reported)).1
  rw [Except.ok.inj entries] at run
  obtain ⟨_, lookup, gains, _⟩ := unforced _ _ run
  have there := ((lookup "ant" (by decide) 4).mp rfl).resolve_left fun hrow =>
    unknown (Table.mem_records.mpr ⟨4, hrow⟩)
  exact ⟨run, gained ▸ gains, there.2, used⟩

end Termbase
