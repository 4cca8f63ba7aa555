import Termbase.Interning.RecordIds
import Termbase.Proofs.Actions
import Termbase.Proofs.Databases

namespace Termbase

theorem mapM_eq_some {α β : Type} {f : α → Option β} {xs : List α} {ys : List β} :
    xs.mapM f = some ys ↔ xs.map f = ys.map some := by
  induction xs generalizing ys with
  | nil => cases ys <;> simp
  | cons x xs ih =>
    rw [List.mapM_cons]
    constructor
    · intro h
      obtain ⟨y, hy, h⟩ := Option.bind_eq_some_iff.mp h
      obtain ⟨rest, hrest, h⟩ := Option.bind_eq_some_iff.mp h
      cases Option.some.inj h
      rw [List.map_cons, List.map_cons, hy, ih.mp hrest]
    · intro h
      cases ys with
      | nil => simp at h
      | cons y ys =>
        obtain ⟨hy, hys⟩ := List.cons.inj h
        have hrest := ih.mpr hys
        simp [hy, hrest]

theorem ForcedIds.assign_ok {level : Level} {forced : ForcedIds level}
    {records : List level.Record} {ids : List RowId} (h : forced.assign records = .ok ids) :
    records.map (fun record => forced.entries.lookup record) = ids.map some ∧
      records.length = forced.entries.length ∧ forced.ids.length = forced.entries.length := by
  unfold assign at h
  split at h
  next found hfound =>
    split at h
    next hlength =>
      cases Except.ok.inj h
      exact ⟨mapM_eq_some.mp hfound, hlength⟩
    next => simp at h
  next => simp at h

theorem ForcedIds.assign_length {level : Level} {forced : ForcedIds level}
    {records : List level.Record} {ids : List RowId} (h : forced.assign records = .ok ids) :
    records.length = ids.length := by
  have hlookup := (assign_ok h).1
  simpa using congrArg List.length hlookup

/-- The records to insert, each with the forced id that it has been assigned. -/
def forcedRows {level : Level} (forced : Option (ForcedIds level)) (records : List level.Record) :
    List (level.Record × Option RowId) :=
  records.zip (assignForced forced records).1

theorem zip_none {α β : Type} (xs : List α) :
    xs.zip (xs.map fun _ => (none : Option β)) = xs.map fun x => (x, none) := by
  induction xs with
  | nil => rfl
  | cons x xs ih => rw [List.map_cons, List.zip_cons_cons, ih, List.map_cons]

theorem forcedRows_none {level : Level} (records : List level.Record) :
    forcedRows none records = records.map fun record => (record, none) :=
  zip_none records

/-- Either no record gets a forced id, or every one gets its own and the ids all fit. -/
theorem forcedRows_cases {level : Level} (forced : Option (ForcedIds level))
    (records : List level.Record) :
    forcedRows forced records = (records.map fun record => (record, none)) ∨
      ∃ known ids, forced = some known ∧ known.assign records = .ok ids ∧
        (assignForced forced records).2 = none ∧
        forcedRows forced records = (records.zip ids).map fun row => (row.1, some row.2) := by
  unfold forcedRows assignForced
  split
  next => exact Or.inl (zip_none records)
  next known =>
    split
    next ids hids =>
      refine Or.inr ⟨known, ids, rfl, hids, rfl, ?_⟩
      rw [List.zip_map_right]
      rfl
    next => exact Or.inl (zip_none records)

theorem forcedRows_records {level : Level} (forced : Option (ForcedIds level))
    (records : List level.Record) : (forcedRows forced records).map Prod.fst = records := by
  rcases forcedRows_cases forced records with h | ⟨known, ids, _, hids, _, h⟩
  · rw [h, List.map_map]
    exact List.map_id _
  · rw [h, List.map_map]
    exact List.map_fst_zip (Nat.le_of_eq (ForcedIds.assign_length hids))

theorem lookup_of_mem_zip {α β : Type} {f : α → Option β} {xs : List α} {ys : List β}
    (h : xs.map f = ys.map some) {pair : α × β} (hpair : pair ∈ xs.zip ys) :
    f pair.1 = some pair.2 := by
  induction xs generalizing ys with
  | nil => simp at hpair
  | cons x xs ih =>
    cases ys with
    | nil => simp at hpair
    | cons y ys =>
      obtain ⟨hy, hys⟩ := List.cons.inj h
      rw [List.zip_cons_cons] at hpair
      rcases List.mem_cons.mp hpair with rfl | hpair
      · exact hy
      · exact ih hys hpair

theorem mem_forcedRows {level : Level} {forced : Option (ForcedIds level)}
    {records : List level.Record} {row : level.Record × Option RowId} {id : RowId}
    (hrow : row ∈ forcedRows forced records) (hid : row.2 = some id) :
    ∃ known, forced = some known ∧ (row.1, id) ∈ known.entries := by
  rcases forcedRows_cases forced records with h | ⟨known, ids, hforced, hassign, _, h⟩
  · rw [h] at hrow
    obtain ⟨record, _, rfl⟩ := List.mem_map.mp hrow
    simp at hid
  · rw [h] at hrow
    obtain ⟨pair, hpair, rfl⟩ := List.mem_map.mp hrow
    cases Option.some.inj hid
    exact ⟨known, hforced, mem_of_lookup (lookup_of_mem_zip (ForcedIds.assign_ok hassign).1 hpair)⟩

namespace Database

variable {db primary : Database} {batch : BatchSize} {level : Level}

def unknown (db : Database) (level : Level) (records : List level.Record) : List level.Record :=
  records.filter fun record => record ∉ (db.table level).records

theorem mem_unknown {records : List level.Record} {record : level.Record} :
    record ∈ db.unknown level records ↔
      record ∈ records ∧ record ∉ (db.table level).records := by
  unfold unknown
  rw [List.mem_filter, decide_eq_true_eq]

theorem filter_lookup_idsOf (records : List level.Record) :
    (records.filter fun record => ((db.idsOf batch level records).lookup record).isNone) =
      db.unknown level records := by
  refine List.filter_congr fun record hrecord => ?_
  have hiff : ((db.idsOf batch level records).lookup record).isNone = true ↔
      record ∉ (db.table level).records := by
    rw [Option.isNone_iff_eq_none, Option.eq_none_iff_forall_ne_some]
    constructor
    · intro h hm
      obtain ⟨id, hrow⟩ := Table.mem_records.mp hm
      exact h id (lookup_idsOf.mpr ⟨hrecord, hrow⟩)
    · intro h id hid
      exact h (Table.mem_records.mpr ⟨id, (lookup_idsOf.mp hid).2⟩)
  rw [Bool.eq_iff_iff, hiff, decide_eq_true_eq]

/-- Adding rows changes the table of their level only, and every row that they point at is
there. -/
theorem insertRecords_ok {rows : List (level.Record × Option RowId)}
    (h : db.insertRecords batch level rows = .ok ((), primary)) :
    (∀ row ∈ rows, ∀ parent, level.parent? row.1 = some parent →
      parent.2 ∈ (db.table parent.1).ids) ∧
      ∃ table, (db.table level).insertAll rows = some table ∧
        primary = db.withTable level table := by
  unfold insertRecords at h
  split at h
  next => simp at h
  next hparents =>
    split at h
    next table htable =>
      refine ⟨fun row hrow parent hparent => ?_, table, htable, ?_⟩
      · exact missingParents_eq_none.mp hparents parent
          (List.mem_filterMap.mpr ⟨row, hrow, hparent⟩)
      · exact (Prod.mk.inj (Except.ok.inj h)).2.symm
    next => simp at h

end Database

/-- How giving ids to records can go, by what the source knows of them. -/
inductive Acquires (batch : BatchSize) (level : Level) (records : List level.Record)
    (forced : Option (ForcedIds level)) (known : Database) (storage : Storage) :
    Except Failure (RecordIds level) → Storage → Prop
  | nothing : records = [] → Acquires batch level records forced known storage
      (.ok RecordIds.empty) storage
  | known : records ≠ [] → known.unknown level records = [] →
      Acquires batch level records forced known storage
        (.ok ⟨known.idsOf batch level records, (assignForced forced []).2⟩) storage
  | declined : ¬batch.Admits level records.length →
      Acquires batch level records forced known storage (.error .statementTooDeep) storage
  | refused {failure} :
      storage.primary.insertRecords batch level
        (forcedRows forced (known.unknown level records)) = .error failure →
      Acquires batch level records forced known storage (.error failure) storage
  | incomplete {primary missing} :
      storage.primary.insertRecords batch level
        (forcedRows forced (known.unknown level records)) = .ok ((), primary) →
      (primary.idsOf batch level (known.unknown level records)).length <
        (known.unknown level records).length →
      Acquires batch level records forced known storage (.error (.incomplete level missing))
        { storage with primary := primary }
  | inserted {primary} : records ≠ [] →
      storage.primary.insertRecords batch level
        (forcedRows forced (known.unknown level records)) = .ok ((), primary) →
      Acquires batch level records forced known storage
        (.ok ⟨known.idsOf batch level records ++
            primary.idsOf batch level (known.unknown level records),
          (assignForced forced (known.unknown level records)).2⟩)
        { storage with primary := primary }

/-- Records that make a statement too deep get no ids, and nothing happens. -/
theorem acquireIds_declined {batch : BatchSize} {source : Source} {level : Level}
    {records : List level.Record} {forced : Option (ForcedIds level)} {storage : Storage}
    (declined : ¬batch.Admits level records.length) :
    (acquireIds batch source level records forced).run storage =
      (.error .statementTooDeep, storage) := by
  have some : records ≠ [] := by
    rintro rfl
    exact declined (.zero batch level)
  unfold acquireIds
  rw [if_neg (mt List.isEmpty_iff.mp some)]
  simp only [Action.run_bind, Action.run_query, Action.run_ofResult, Database.selectIds_eq,
    if_neg declined]

theorem acquireIds_run {batch : BatchSize} {source : Source} {level : Level}
    {records : List level.Record} (admits : batch.Admits level records.length)
    (some : records ≠ []) (forced : Option (ForcedIds level)) (storage : Storage) :
    let known := storage.database source
    let unknown := known.unknown level records
    (acquireIds batch source level records forced).run storage =
      if unknown = [] then
        (.ok ⟨known.idsOf batch level records, (assignForced forced unknown).2⟩, storage)
      else
        match storage.primary.insertRecords batch level (forcedRows forced unknown) with
        | .error failure => (.error failure, storage)
        | .ok ((), primary) =>
          let inserted := primary.idsOf batch level unknown
          if inserted.length < unknown.length then
            (.error (.incomplete level (unknown.length - inserted.length)),
              { storage with primary := primary })
          else
            (.ok ⟨known.idsOf batch level records ++ inserted, (assignForced forced unknown).2⟩,
              { storage with primary := primary }) := by
  intro known unknown
  have fewer : batch.Admits level ((storage.database source).unknown level records).length :=
    admits.mono (List.length_filter_le _ _)
  unfold acquireIds
  rw [if_neg (mt List.isEmpty_iff.mp some)]
  simp only [Action.run_bind, Action.run_query, Action.run_ofResult, Database.selectIds_eq,
    if_pos admits, Database.filter_lookup_idsOf, if_pos fewer]
  split
  next hknown => rw [if_pos (List.isEmpty_iff.mp hknown), Action.run_pure]
  next hunknown =>
    rw [if_neg (mt List.isEmpty_iff.mpr hunknown), Action.run_bind]
    cases hinsert : storage.primary.insertRecords batch level (forcedRows forced unknown) with
    | error failure => rw [Action.run_transact_error hinsert]
    | ok result =>
      obtain ⟨⟨⟩, primary⟩ := result
      rw [Action.run_transact_ok hinsert]
      simp only [Action.run_bind, Action.run_query, Action.run_ofResult]
      split
      next hless => exact (if_pos hless).symm
      next hall => exact (if_neg hall).symm

theorem acquireIds_acquires {batch : BatchSize} {source : Source} {level : Level}
    {records : List level.Record} {forced : Option (ForcedIds level)} {storage after : Storage}
    {outcome : Except Failure (RecordIds level)}
    (h : (acquireIds batch source level records forced).run storage = (outcome, after)) :
    Acquires batch level records forced (storage.database source) storage outcome after := by
  by_cases hnil : records = []
  · subst hnil
    cases h
    exact .nothing rfl
  by_cases admits : batch.Admits level records.length
  · rw [acquireIds_run admits hnil] at h
    simp only at h
    split at h
    next hknown =>
      cases h
      rw [hknown]
      exact .known hnil hknown
    next =>
      split at h
      next hinsert =>
        cases h
        exact .refused hinsert
      next hinsert =>
        split at h
        next hless =>
          cases h
          exact .incomplete hinsert hless
        next =>
          cases h
          exact .inserted hnil hinsert
  · rw [acquireIds_declined admits] at h
    cases h
    exact .declined admits

namespace Acquires

variable {batch : BatchSize} {level : Level} {records : List level.Record}
  {forced : Option (ForcedIds level)} {known : Database} {storage after : Storage}
  {ids : RecordIds level}

/-- A record that is known keeps its id, and any other one has that of its row on the primary. -/
theorem lookup (h : Acquires batch level records forced known storage (.ok ids) after)
    {record : level.Record} (hrecord : record ∈ records) {id : RowId} :
    ids.entries.lookup record = some id ↔ (id, record) ∈ (known.table level).rows ∨
      record ∉ (known.table level).records ∧ (id, record) ∈ (after.primary.table level).rows := by
  have hknown : (known.idsOf batch level records).lookup record = some id ↔
      (id, record) ∈ (known.table level).rows := by
    rw [Database.lookup_idsOf]
    exact ⟨fun h => h.2, fun h => ⟨hrecord, h⟩⟩
  cases h with
  | nothing hnil =>
    rw [hnil] at hrecord
    simp at hrecord
  | known _ hnil =>
    have hthere : record ∈ (known.table level).records := by
      refine Decidable.byContradiction fun hn => ?_
      have hunknown := Database.mem_unknown.mpr ⟨hrecord, hn⟩
      rw [hnil] at hunknown
      simp at hunknown
    rw [hknown]
    exact ⟨Or.inl, fun h => h.elim (fun h => h) fun h => absurd hthere h.1⟩
  | @inserted primary _ hinsert =>
    by_cases hthere : record ∈ (known.table level).records
    · obtain ⟨other, hrow⟩ := Table.mem_records.mp hthere
      have hlookup : (known.idsOf batch level records).lookup record = some other :=
        Database.lookup_idsOf.mpr ⟨hrecord, hrow⟩
      rw [lookup_append_of_some hlookup]
      constructor
      · intro he
        exact Or.inl (Option.some.inj he ▸ hrow)
      · rintro (h | h)
        · rw [Table.id_unique hrow h]
        · exact absurd hthere h.1
    · have hnone : (known.idsOf batch level records).lookup record = none := by
        refine Option.eq_none_iff_forall_ne_some.mpr fun other ho => hthere ?_
        exact Table.mem_records.mpr ⟨other, (Database.lookup_idsOf.mp ho).2⟩
      rw [lookup_append_of_none hnone, Database.lookup_idsOf, Database.mem_unknown]
      constructor
      · exact fun h => Or.inr ⟨hthere, h.2⟩
      · rintro (h | h)
        · exact absurd (Table.mem_records.mpr ⟨id, h⟩) hthere
        · exact ⟨⟨hrecord, hthere⟩, h.2⟩

theorem found (h : Acquires batch level records forced known storage (.ok ids) after)
    {record : level.Record} (hrecord : record ∈ records) :
    ∃ id, ids.entries.lookup record = some id := by
  by_cases hthere : record ∈ (known.table level).records
  · obtain ⟨id, hrow⟩ := Table.mem_records.mp hthere
    exact ⟨id, (h.lookup hrecord).mpr (Or.inl hrow)⟩
  · suffices hrow : record ∈ (after.primary.table level).records by
      obtain ⟨id, hrow⟩ := Table.mem_records.mp hrow
      exact ⟨id, (h.lookup hrecord).mpr (Or.inr ⟨hthere, hrow⟩)⟩
    have hunknown := Database.mem_unknown.mpr ⟨hrecord, hthere⟩
    cases h with
    | nothing hnil =>
      rw [hnil] at hrecord
      simp at hrecord
    | known _ hnil =>
      rw [hnil] at hunknown
      simp at hunknown
    | @inserted primary _ hinsert =>
      obtain ⟨_, table, htable, rfl⟩ := Database.insertRecords_ok hinsert
      rw [← forcedRows_records forced (known.unknown level records)] at hunknown
      obtain ⟨row, hrow, rfl⟩ := List.mem_map.mp hunknown
      have hmem := (Table.insertAll_extends htable).2 row hrow
      rwa [← Database.table_withTable storage.primary level table] at hmem

theorem mismatch_eq (h : Acquires batch level records forced known storage (.ok ids) after)
    (some : records ≠ []) :
    ids.mismatch = (assignForced forced (known.unknown level records)).2 := by
  cases h with
  | nothing hnil => exact absurd hnil some
  | known _ hnil => rw [hnil]
  | inserted => rfl

end Acquires

/-- Inserting does not look for records, so no statement of it is too deep. -/
theorem Database.insertRecords_ne_tooDeep {db : Database} {batch : BatchSize} {level : Level}
    {rows : List (level.Record × Option RowId)} :
    db.insertRecords batch level rows ≠ .error .statementTooDeep := by
  unfold insertRecords
  split
  next => nofun
  next => split <;> nofun

theorem acquireIds_tooDeep_iff {batch : BatchSize} {source : Source} {level : Level}
    {records : List level.Record} {forced : Option (ForcedIds level)} {storage : Storage} :
    ((acquireIds batch source level records forced).run storage).1 = .error .statementTooDeep ↔
      ¬batch.Admits level records.length := by
  constructor
  · intro h
    rcases hrun : (acquireIds batch source level records forced).run storage with ⟨outcome, after⟩
    rw [hrun] at h
    cases h
    cases acquireIds_acquires hrun with
    | declined declined => exact declined
    | refused hinsert => exact absurd hinsert Database.insertRecords_ne_tooDeep
  · intro declined
    rw [acquireIds_declined declined]

/-- Nothing but rows and used ids has been added. -/
structure Storage.Grows (storage after : Storage) : Prop where
  replica : after.replica = storage.replica
  links : ∀ kind, after.primary.links kind = storage.primary.links kind
  typeCodes : after.primary.typeCodes = storage.primary.typeCodes
  rows : ∀ level, ∀ row ∈ (storage.primary.table level).rows,
    row ∈ (after.primary.table level).rows
  lastId_le : ∀ level,
    (storage.primary.table level).lastId ≤ (after.primary.table level).lastId

namespace Storage.Grows

theorem refl (storage : Storage) : storage.Grows storage :=
  ⟨rfl, fun _ => rfl, rfl, fun _ _ hrow => hrow, fun _ => Int64.le_refl _⟩

theorem trans (a b c : Storage) (hab : a.Grows b) (hbc : b.Grows c) : a.Grows c :=
  ⟨hbc.replica.trans hab.replica, fun kind => (hbc.links kind).trans (hab.links kind),
    hbc.typeCodes.trans hab.typeCodes,
    fun level row hrow => hbc.rows level row (hab.rows level row hrow),
    fun level => Int64.le_trans (hab.lastId_le level) (hbc.lastId_le level)⟩

theorem ids {storage after : Storage} (h : storage.Grows after) {level : Level} {id : RowId}
    (hid : id ∈ (storage.primary.table level).ids) : id ∈ (after.primary.table level).ids := by
  obtain ⟨record, hrow⟩ := Table.mem_ids.mp hid
  exact Table.mem_ids.mpr ⟨record, h.rows level _ hrow⟩

end Storage.Grows

theorem Database.insertRecords_grows {storage : Storage} {batch : BatchSize} {level : Level}
    {rows : List (level.Record × Option RowId)} {primary : Database}
    (h : storage.primary.insertRecords batch level rows = .ok ((), primary)) :
    storage.Grows { storage with primary := primary } := by
  obtain ⟨_, table, htable, rfl⟩ := insertRecords_ok h
  obtain ⟨hextends, _⟩ := Table.insertAll_extends htable
  refine ⟨rfl, fun kind => links_withTable _ _ _ kind, by cases level <;> rfl, ?_, ?_⟩
  · intro other row hrow
    by_cases same : other = level
    · subst same
      rw [table_withTable]
      exact hextends.mem hrow
    · rwa [table_withTable_of_ne same]
  · intro other
    by_cases same : other = level
    · subst same
      rw [table_withTable]
      exact hextends.lastId_le
    · rw [table_withTable_of_ne same]
      exact Int64.le_refl _

namespace Acquires

variable {batch : BatchSize} {level : Level} {records : List level.Record}
  {forced : Option (ForcedIds level)} {known : Database} {storage after : Storage}
  {outcome : Except Failure (RecordIds level)}

/-- Either nothing has happened, or the rows of the unknown records have been inserted. -/
theorem after_cases (h : Acquires batch level records forced known storage outcome after) :
    after = storage ∨ ∃ primary, storage.primary.insertRecords batch level
        (forcedRows forced (known.unknown level records)) = .ok ((), primary) ∧
      after = { storage with primary := primary } := by
  cases h with
  | nothing => exact Or.inl rfl
  | known => exact Or.inl rfl
  | declined => exact Or.inl rfl
  | refused => exact Or.inl rfl
  | incomplete hinsert => exact Or.inr ⟨_, hinsert, rfl⟩
  | inserted _ hinsert => exact Or.inr ⟨_, hinsert, rfl⟩

theorem grows (h : Acquires batch level records forced known storage outcome after) :
    storage.Grows after := by
  rcases h.after_cases with rfl | ⟨primary, hinsert, rfl⟩
  · exact .refl after
  · exact Database.insertRecords_grows hinsert

/-- Giving ids to records of a level leaves the other levels alone. -/
theorem other (h : Acquires batch level records forced known storage outcome after) {other : Level}
    (different : other ≠ level) : after.primary.table other = storage.primary.table other := by
  rcases h.after_cases with rfl | ⟨primary, hinsert, rfl⟩
  · rfl
  · obtain ⟨_, table, _, rfl⟩ := Database.insertRecords_ok hinsert
    exact Database.table_withTable_of_ne different table

/-- A new row holds one of the records that the source does not know. -/
theorem added (h : Acquires batch level records forced known storage outcome after)
    {row : RowId × level.Record} (hrow : row ∈ (after.primary.table level).rows)
    (fresh : row ∉ (storage.primary.table level).rows) : row.2 ∈ known.unknown level records := by
  rcases h.after_cases with rfl | ⟨primary, hinsert, rfl⟩
  · exact absurd hrow fresh
  · obtain ⟨_, table, htable, rfl⟩ := Database.insertRecords_ok hinsert
    rw [Database.table_withTable] at hrow
    have hnew := ((Table.insertAll_extends htable).1.mem_or hrow).resolve_left fresh
    rwa [forcedRows_records] at hnew

end Acquires

theorem acquireIds_grows (batch : BatchSize) (source : Source) (level : Level)
    (records : List level.Record) (forced : Option (ForcedIds level)) :
    (acquireIds batch source level records forced).Within Storage.Grows :=
  fun _ => (acquireIds_acquires rfl).grows

end Termbase
