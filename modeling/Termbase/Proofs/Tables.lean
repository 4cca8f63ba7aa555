import Termbase.Cleanup
import Termbase.Proofs.Lists
import Termbase.Storage.Batch
import Termbase.Store.Resolve

namespace Termbase.Table

variable {ρ : Type}

theorem mem_ids {table : Table ρ} {id : RowId} :
    id ∈ table.ids ↔ ∃ record, (id, record) ∈ table.rows := by
  constructor
  · intro h
    obtain ⟨row, hrow, rfl⟩ := List.mem_map.mp h
    exact ⟨row.2, hrow⟩
  · rintro ⟨record, hrow⟩
    exact List.mem_map.mpr ⟨(id, record), hrow, rfl⟩

theorem mem_records {table : Table ρ} {record : ρ} :
    record ∈ table.records ↔ ∃ id, (id, record) ∈ table.rows := by
  constructor
  · intro h
    obtain ⟨row, hrow, rfl⟩ := List.mem_map.mp h
    exact ⟨row.1, hrow⟩
  · rintro ⟨id, hrow⟩
    exact List.mem_map.mpr ⟨(id, record), hrow, rfl⟩

theorem record_unique {table : Table ρ} {id : RowId} {a b : ρ} (ha : (id, a) ∈ table.rows)
    (hb : (id, b) ∈ table.rows) : a = b :=
  single_of_nodup_keys table.ids_nodup ha hb

theorem id_unique {table : Table ρ} {record : ρ} {a b : RowId} (ha : (a, record) ∈ table.rows)
    (hb : (b, record) ∈ table.rows) : a = b := by
  have hswap : ((table.rows.map Prod.swap).map Prod.fst).Nodup := by
    rw [List.map_map]
    exact table.records_nodup
  exact single_of_nodup_keys hswap (List.mem_map.mpr ⟨_, ha, rfl⟩) (List.mem_map.mpr ⟨_, hb, rfl⟩)

theorem record?_eq_some_iff {table : Table ρ} {id : RowId} {record : ρ} :
    table.record? id = some record ↔ (id, record) ∈ table.rows :=
  lookup_eq_some_iff_mem table.ids_nodup

/-- The rows of the second table are those of the first and, after them, rows for some of the
records. -/
structure Extends (table larger : Table ρ) (records : List ρ) : Prop where
  rows : ∃ added, larger.rows = table.rows ++ added ∧ ∀ row ∈ added, row.2 ∈ records
  lastId_le : table.lastId ≤ larger.lastId

namespace Extends

theorem refl (table : Table ρ) (records : List ρ) : table.Extends table records :=
  ⟨⟨[], by simp, by simp⟩, Int64.le_refl _⟩

theorem trans {a b c : Table ρ} {records others : List ρ} (hab : a.Extends b records)
    (hbc : b.Extends c others) : a.Extends c (records ++ others) := by
  obtain ⟨first, hfirst, hrecords⟩ := hab.rows
  obtain ⟨second, hsecond, hothers⟩ := hbc.rows
  refine ⟨⟨first ++ second, by rw [hsecond, hfirst, List.append_assoc], fun row hrow => ?_⟩,
    Int64.le_trans hab.lastId_le hbc.lastId_le⟩
  rcases List.mem_append.mp hrow with h | h
  · exact List.mem_append_left _ (hrecords row h)
  · exact List.mem_append_right _ (hothers row h)

theorem mem {table larger : Table ρ} {records : List ρ} (h : table.Extends larger records)
    {row : RowId × ρ} (hrow : row ∈ table.rows) : row ∈ larger.rows := by
  obtain ⟨added, hrows, _⟩ := h.rows
  rw [hrows]
  exact List.mem_append_left _ hrow

theorem mem_or {table larger : Table ρ} {records : List ρ} (h : table.Extends larger records)
    {row : RowId × ρ} (hrow : row ∈ larger.rows) : row ∈ table.rows ∨ row.2 ∈ records := by
  obtain ⟨added, hrows, hadded⟩ := h.rows
  rw [hrows] at hrow
  exact (List.mem_append.mp hrow).imp_right (hadded row)

end Extends

theorem next_not_mem {table : Table ρ} {id : RowId} (h : table.lastId < id) : id ∉ table.ids := by
  intro hm
  obtain ⟨record, hrow⟩ := mem_ids.mp hm
  exact Int64.lt_irrefl (Int64.lt_of_lt_of_le h (table.ids_le_lastId _ hrow))

theorem eq_of_rows {table other : Table ρ} (rows : table.rows = other.rows)
    (lastId : table.lastId = other.lastId) : table = other := by
  cases table
  cases other
  simp_all only

theorem mem_erase {table : Table ρ} {ids : List RowId} {row : RowId × ρ} :
    row ∈ (table.erase ids).rows ↔ row ∈ table.rows ∧ row.1 ∉ ids := by
  unfold erase
  rw [List.mem_filter, decide_eq_true_eq]

theorem erase_erase (table : Table ρ) (ids others : List RowId) :
    (table.erase ids).erase others = table.erase (ids ++ others) := by
  refine eq_of_rows ?_ rfl
  simp only [erase, List.filter_filter]
  refine List.filter_congr fun row _ => ?_
  rw [Bool.eq_iff_iff, Bool.and_eq_true, decide_eq_true_eq, decide_eq_true_eq,
    decide_eq_true_eq, List.mem_append, not_or, and_comm]

/-- Erasing in batches is erasing at once. -/
theorem eraseAll_eq (table : Table ρ) (batch : BatchSize) (ids : List RowId) :
    table.eraseAll batch ids = table.erase ids := by
  have fold : ∀ (chunks : List (List RowId)) (start : Table ρ),
      chunks.foldl erase start = start.erase chunks.flatten := by
    intro chunks
    induction chunks with
    | nil =>
      intro start
      exact eq_of_rows (List.filter_eq_self.mpr (by simp)).symm rfl
    | cons chunk chunks ih =>
      intro start
      rw [List.foldl_cons, ih, erase_erase, List.flatten_cons]
  unfold eraseAll
  rw [fold, batch.flatten_split]

theorem mem_eraseAll {table : Table ρ} {batch : BatchSize} {ids : List RowId}
    {row : RowId × ρ} :
    row ∈ (table.eraseAll batch ids).rows ↔ row ∈ table.rows ∧ row.1 ∉ ids := by
  rw [eraseAll_eq, mem_erase]

theorem eraseAll_lastId (table : Table ρ) (batch : BatchSize) (ids : List RowId) :
    (table.eraseAll batch ids).lastId = table.lastId := by
  rw [eraseAll_eq]
  rfl

theorem mem_ids_added {table larger : Table ρ} {row : RowId × ρ}
    (h : larger.rows = table.rows ++ [row]) {id : RowId} (different : id ≠ row.1) :
    id ∈ larger.ids ↔ id ∈ table.ids := by
  unfold ids
  rw [h, List.map_append, List.mem_append]
  exact or_iff_left (by simpa using different)

theorem mem_records_added {table larger : Table ρ} {row : RowId × ρ}
    (h : larger.rows = table.rows ++ [row]) {record : ρ} (different : record ≠ row.2) :
    record ∈ larger.records ↔ record ∈ table.records := by
  unfold records
  rw [h, List.map_append, List.mem_append]
  exact or_iff_left (by simpa using different)

/-- Nothing keeps the record from having this id: it has got it, or both are new. -/
def Admits (table : Table ρ) (id : RowId) (record : ρ) : Prop :=
  (id, record) ∈ table.rows ∨ id ∉ table.ids ∧ record ∉ table.records

theorem Admits.of_rows {table larger : Table ρ} {id : RowId} {record : ρ}
    (admitted : table.Admits id record) (same : larger.rows = table.rows) :
    larger.Admits id record := by
  unfold Admits ids records at admitted ⊢
  rwa [same]

theorem Admits.added {table larger : Table ρ} {row : RowId × ρ} {id : RowId} {record : ρ}
    (admitted : table.Admits id record) (h : larger.rows = table.rows ++ [row])
    (otherId : id ≠ row.1) (otherRecord : record ≠ row.2) : larger.Admits id record := by
  rcases admitted with there | ⟨hid, hrecord⟩
  · exact Or.inl (h ▸ List.mem_append_left _ there)
  · exact Or.inr ⟨mt (mem_ids_added h otherId).mp hid,
      mt (mem_records_added h otherRecord).mp hrecord⟩

variable [DecidableEq ρ]

theorem insertAt_free {table : Table ρ} {id : RowId} {record : ρ}
    (free : id ∉ table.ids ∧ record ∉ table.records) :
    (table.insertAt id record).rows = table.rows ++ [(id, record)] ∧
      (table.insertAt id record).lastId = laterId table.lastId id := by
  unfold insertAt
  rw [dif_pos free]
  exact ⟨rfl, rfl⟩

theorem insertAt_taken {table : Table ρ} {id : RowId} {record : ρ}
    (taken : ¬(id ∉ table.ids ∧ record ∉ table.records)) :
    table.insertAt id record = table.reserve id := by
  unfold insertAt
  rw [dif_neg taken]

/-- What adding a row with the next id does: nothing but using up the id when the record is there
already. -/
theorem insertNext_cases {table larger : Table ρ} {record : ρ}
    (h : table.insertNext record = some larger) :
    table.lastId ≤ larger.lastId ∧
      (record ∈ table.records ∧ larger.rows = table.rows ∨
        record ∉ table.records ∧ ∃ id, table.lastId < id ∧ id ≤ larger.lastId ∧
          larger.rows = table.rows ++ [(id, record)]) := by
  obtain ⟨id, hid, rfl⟩ := Option.map_eq_some_iff.mp h
  have hlt := lt_of_nextId? hid
  by_cases hr : record ∈ table.records
  · rw [insertAt_taken (by simp [hr])]
    exact ⟨left_le_laterId _ _, Or.inl ⟨hr, rfl⟩⟩
  · obtain ⟨hrows, hlast⟩ := insertAt_free ⟨next_not_mem hlt, hr⟩
    rw [hlast]
    exact ⟨left_le_laterId _ _, Or.inr ⟨hr, id, hlt, right_le_laterId _ _, hrows⟩⟩

/-- What adding a row does. A new row has the id that it was to have or, if it was to have none or
one that is taken, a larger one than all before. -/
theorem insert_cases {table larger : Table ρ} {record : ρ} {id? : Option RowId}
    (h : table.insert record id? = some larger) :
    table.lastId ≤ larger.lastId ∧
      (record ∈ table.records ∧ larger.rows = table.rows ∨
        record ∉ table.records ∧ ∃ id, id ≤ larger.lastId ∧
          larger.rows = table.rows ++ [(id, record)] ∧ (id? = some id ∨ table.lastId < id)) := by
  cases id? with
  | none =>
    obtain ⟨hle, hcase⟩ := insertNext_cases h
    refine ⟨hle, hcase.imp_right ?_⟩
    rintro ⟨hr, id, hlt, hid, hrows⟩
    exact ⟨hr, id, hid, hrows, Or.inr hlt⟩
  | some forced =>
    unfold insert at h
    simp only at h
    split at h
    next hfree =>
      have hfree' : forced ∉ table.ids ∧ record ∉ table.records := by
        simpa [isFree] using hfree
      obtain ⟨hrows, hlast⟩ := insertAt_free hfree'
      cases Option.some.inj h
      rw [hlast]
      exact ⟨left_le_laterId _ _,
        Or.inr ⟨hfree'.2, forced, right_le_laterId _ _, hrows, Or.inl rfl⟩⟩
    next =>
      obtain ⟨hle, hcase⟩ := insertNext_cases h
      have hreserve : table.lastId ≤ (table.reserve forced).lastId := left_le_laterId _ _
      refine ⟨Int64.le_trans hreserve hle, hcase.imp_right ?_⟩
      rintro ⟨hr, id, hlt, hid, hrows⟩
      exact ⟨hr, id, hid, hrows, Or.inr (Int64.lt_of_le_of_lt hreserve hlt)⟩

theorem insertAll_cons {table larger : Table ρ} {row : ρ × Option RowId}
    {rows : List (ρ × Option RowId)} (h : table.insertAll (row :: rows) = some larger) :
    ∃ between, table.insert row.1 row.2 = some between ∧ between.insertAll rows = some larger := by
  unfold insertAll at h
  rw [List.foldlM_cons] at h
  exact Option.bind_eq_some_iff.mp h

theorem insert_extends {table larger : Table ρ} {record : ρ} {id? : Option RowId}
    (h : table.insert record id? = some larger) :
    table.Extends larger [record] ∧ record ∈ larger.records := by
  obtain ⟨hle, ⟨hr, hrows⟩ | ⟨hr, id, _, hrows, _⟩⟩ := insert_cases h
  · refine ⟨⟨⟨[], by simp [hrows], by simp⟩, hle⟩, ?_⟩
    unfold records
    rw [hrows]
    exact hr
  · refine ⟨⟨⟨[(id, record)], hrows, by simp⟩, hle⟩, ?_⟩
    unfold records
    rw [hrows]
    simp

theorem insertAll_extends {table larger : Table ρ} {rows : List (ρ × Option RowId)}
    (h : table.insertAll rows = some larger) :
    table.Extends larger (rows.map Prod.fst) ∧ ∀ row ∈ rows, row.1 ∈ larger.records := by
  induction rows generalizing table with
  | nil =>
    cases Option.some.inj h
    exact ⟨Extends.refl _ _, by simp⟩
  | cons row rows ih =>
    obtain ⟨between, hinsert, hrest⟩ := insertAll_cons h
    obtain ⟨hfirst, hmem⟩ := insert_extends hinsert
    obtain ⟨hsecond, hall⟩ := ih hrest
    refine ⟨hfirst.trans hsecond, fun other hother => ?_⟩
    rcases List.mem_cons.mp hother with rfl | hother
    · obtain ⟨id, hrow⟩ := mem_records.mp hmem
      exact mem_records.mpr ⟨id, hsecond.mem hrow⟩
    · exact hall other hother

theorem insert_there {table larger : Table ρ} {record : ρ} {id? : Option RowId}
    (h : table.insert record id? = some larger) (there : record ∈ table.records) :
    larger.rows = table.rows := by
  obtain ⟨_, ⟨_, hrows⟩ | ⟨absent, _⟩⟩ := insert_cases h
  · exact hrows
  · exact absurd there absent

/-- A new row has the id that it was to have just when that id is free. -/
theorem insert_forced {table larger : Table ρ} {record : ρ} {id : RowId}
    (h : table.insert record (some id) = some larger) (absent : record ∉ table.records) :
    id ∉ table.ids ∧ larger.rows = table.rows ++ [(id, record)] ∨
      id ∈ table.ids ∧ ∃ next, table.lastId < next ∧
        larger.rows = table.rows ++ [(next, record)] := by
  by_cases taken : id ∈ table.ids
  · refine Or.inr ⟨taken, ?_⟩
    have hnext : (table.reserve id).insertNext record = some larger := by
      simpa [insert, isFree, taken] using h
    obtain ⟨_, ⟨there, _⟩ | ⟨_, next, hlt, _, hrows⟩⟩ := insertNext_cases hnext
    · exact absurd there absent
    · exact ⟨next, Int64.lt_of_le_of_lt (left_le_laterId _ _) hlt, hrows⟩
  · have hat : table.insertAt id record = larger := by
      simpa [insert, isFree, taken, absent] using h
    refine Or.inl ⟨taken, ?_⟩
    rw [← hat]
    exact (insertAt_free ⟨taken, absent⟩).1

/-- Rows with distinct records that may have their distinct ids all get them. -/
theorem insertAll_admitted {table larger : Table ρ} {rows : List (ρ × RowId)}
    (h : table.insertAll (rows.map fun row => (row.1, some row.2)) = some larger)
    (admitted : ∀ row ∈ rows, table.Admits row.2 row.1)
    (ids_nodup : (rows.map Prod.snd).Nodup) (records_nodup : (rows.map Prod.fst).Nodup) :
    larger.rows =
      table.rows ++ (rows.filter fun row => row.1 ∉ table.records).map Prod.swap := by
  induction rows generalizing table with
  | nil =>
    cases Option.some.inj h
    simp
  | cons row rows ih =>
    obtain ⟨between, hinsert, hrest⟩ := insertAll_cons h
    obtain ⟨idFresh, idsRest⟩ := List.nodup_cons.mp (List.map_cons ▸ ids_nodup)
    obtain ⟨recordFresh, recordsRest⟩ := List.nodup_cons.mp (List.map_cons ▸ records_nodup)
    rw [List.filter_cons]
    rcases admitted row List.mem_cons_self with there | ⟨hid, hrecord⟩
    · have hthere := mem_records.mpr ⟨row.2, there⟩
      have same : between.rows = table.rows := insert_there hinsert hthere
      have records : between.records = table.records := congrArg (List.map Prod.snd) same
      rw [if_neg (by simpa using hthere), ← records, ← same]
      exact ih hrest (fun other hother =>
        (admitted other (List.mem_cons_of_mem _ hother)).of_rows same) idsRest recordsRest
    · have hrows : between.rows = table.rows ++ [(row.2, row.1)] := by
        rcases insert_forced hinsert hrecord with ⟨_, hrows⟩ | ⟨taken, _⟩
        · exact hrows
        · exact absurd taken hid
      -- The row that has been added shares neither its id nor its record with one to come.
      have otherId : ∀ other ∈ rows, other.2 ≠ row.2 := fun other hother he =>
        idFresh (List.mem_map.mpr ⟨other, hother, he⟩)
      have otherRecord : ∀ other ∈ rows, other.1 ≠ row.1 := fun other hother he =>
        recordFresh (List.mem_map.mpr ⟨other, hother, he⟩)
      have kept : (rows.filter fun other => other.1 ∉ between.records) =
          rows.filter fun other => other.1 ∉ table.records :=
        List.filter_congr fun other hother => decide_eq_decide.mpr
          (not_congr (mem_records_added hrows (otherRecord other hother)))
      rw [ih hrest ?_ idsRest recordsRest, kept, hrows, if_pos (by simpa using hrecord)]
      · rw [List.append_assoc]
        rfl
      · intro other hother
        exact (admitted other (List.mem_cons_of_mem _ hother)).added hrows
          (otherId other hother) (otherRecord other hother)

end Termbase.Table
