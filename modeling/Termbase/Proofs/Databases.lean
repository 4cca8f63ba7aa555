import Termbase.Proofs.Tables

namespace Termbase

theorem Table.mem_presentAmong {ρ : Type} {batch : BatchSize} {table : Table ρ} {id : RowId}
    {ids : List RowId} :
    id ∈ batch.collect table.presentAmong ids ↔ id ∈ ids ∧ id ∈ table.ids := by
  rw [BatchSize.mem_collect (p := fun x y => x = y ∧ y ∈ table.ids)]
  · exact ⟨fun ⟨_, hx, he, hid⟩ => ⟨he ▸ hx, hid⟩, fun ⟨hx, hid⟩ => ⟨id, hx, rfl, hid⟩⟩
  · intro chunk
    unfold presentAmong
    rw [List.mem_filter, decide_eq_true_eq]
    exact ⟨fun ⟨hid, hx⟩ => ⟨id, hx, rfl, hid⟩, fun ⟨_, hx, he, hid⟩ => ⟨hid, he ▸ hx⟩⟩

theorem mapM_guard {α β : Type} {p : α → Prop} [DecidablePred p] {f : α → β} {failure : Failure}
    (xs : List α) :
    xs.mapM (fun x => if p x then Except.ok (f x) else .error failure) =
      if ∀ x ∈ xs, p x then Except.ok (xs.map f) else .error failure := by
  induction xs with
  | nil => rfl
  | cons x xs ih =>
    rw [List.mapM_cons, ih]
    by_cases first : p x
    · by_cases rest : ∀ y ∈ xs, p y
      · rw [if_pos first, if_pos rest, if_pos (List.forall_mem_cons.mpr ⟨first, rest⟩)]
        rfl
      · rw [if_pos first, if_neg rest, if_neg fun h => rest (List.forall_mem_cons.mp h).2]
        rfl
    · rw [if_neg first, if_neg fun h => first (List.forall_mem_cons.mp h).1]
      rfl

/-- What holds of short lists holds of all batches if it holds of the first one. -/
theorem BatchSize.forall_split {α : Type} {size : BatchSize} {p : Nat → Prop} (zero : p 0)
    (shorter : ∀ m n, m ≤ n → p n → p m) {xs : List α} :
    (∀ chunk ∈ size.split xs, p chunk.length) ↔ p (min size.rows xs.length) := by
  fun_induction split size xs with
  | case1 => simpa using zero
  | case2 x xs ih =>
    rw [List.forall_mem_cons, ih, List.length_take]
    refine ⟨fun h => h.1, fun h => ⟨h, shorter _ _ ?_ h⟩⟩
    rw [List.length_drop]
    omega

namespace Level

variable {level : Level}

theorem Accepts.mono {more fewer : Nat} (h : level.Accepts more) (le : fewer ≤ more) :
    level.Accepts fewer := by
  unfold Accepts at h ⊢
  omega

theorem accepts_zero (level : Level) : level.Accepts 0 := by
  cases level <;> decide

end Level

/-- All statements that look for so many records in batches are taken. -/
def BatchSize.Admits (batch : BatchSize) (level : Level) (records : Nat) : Prop :=
  level.Accepts (min batch.rows records)

instance (batch : BatchSize) (level : Level) (records : Nat) :
    Decidable (batch.Admits level records) :=
  inferInstanceAs (Decidable (level.Accepts _))

namespace BatchSize.Admits

variable {batch : BatchSize} {level : Level} {more fewer : Nat}

theorem mono (h : batch.Admits level more) (le : fewer ≤ more) : batch.Admits level fewer :=
  Level.Accepts.mono h (by omega)

theorem zero (batch : BatchSize) (level : Level) : batch.Admits level 0 :=
  level.accepts_zero.mono (Nat.min_le_right _ _)

end BatchSize.Admits

namespace Database

variable {db : Database} {batch : BatchSize} {level : Level}

@[simp]
theorem table_withTable (db : Database) (level : Level) (table : Table level.Record) :
    (db.withTable level table).table level = table := by
  cases level <;> rfl

theorem table_withTable_of_ne {other : Level} (h : other ≠ level) (table : Table level.Record) :
    (db.withTable level table).table other = db.table other := by
  cases level <;> cases other <;> first | rfl | exact absurd rfl h

@[simp]
theorem links_withTable (db : Database) (level : Level) (table : Table level.Record)
    (kind : EntityKind) : (db.withTable level table).links kind = db.links kind := by
  cases level <;> cases kind <;> rfl

@[simp]
theorem table_withLinks (db : Database) (kind : EntityKind) (links : Links) (level : Level) :
    (db.withLinks kind links).table level = db.table level := by
  cases level <;> cases kind <;> rfl

@[simp]
theorem links_withLinks (db : Database) (kind : EntityKind) (links : Links) :
    (db.withLinks kind links).links kind = links := by
  cases kind <;> rfl

theorem links_withLinks_of_ne {kind other : EntityKind} (h : other ≠ kind) (links : Links) :
    (db.withLinks kind links).links other = db.links other := by
  cases kind <;> cases other <;> first | rfl | exact absurd rfl h

theorem mem_matching {records : List level.Record} {record : level.Record} {id : RowId} :
    (record, id) ∈ batch.collect (db.table level).matching records ↔
      record ∈ records ∧ (id, record) ∈ (db.table level).rows := by
  rw [BatchSize.mem_collect (p := fun x y => x = y.1 ∧ (y.2, y.1) ∈ (db.table level).rows)]
  · constructor
    · rintro ⟨_, hx, rfl, hrow⟩
      exact ⟨hx, hrow⟩
    · exact fun ⟨hx, hrow⟩ => ⟨record, hx, rfl, hrow⟩
  · intro chunk
    constructor
    · intro h
      obtain ⟨row, hrow, he⟩ := List.mem_map.mp h
      obtain ⟨hrow, hx⟩ := List.mem_filter.mp hrow
      cases he
      exact ⟨row.2, of_decide_eq_true hx, rfl, hrow⟩
    · rintro ⟨x, hx, rfl, hrow⟩
      exact List.mem_map.mpr ⟨(id, x), List.mem_filter.mpr ⟨hrow, decide_eq_true hx⟩, rfl⟩

/-- The ids of records when no statement is refused. -/
def idsOf (db : Database) (batch : BatchSize) (level : Level) (records : List level.Record) :
    List (level.Record × RowId) :=
  firstPerKey (batch.collect (db.table level).matching records)

theorem selectIds_eq (records : List level.Record) :
    db.selectIds batch level records =
      if batch.Admits level records.length then .ok (db.idsOf batch level records)
      else .error .statementTooDeep := by
  have chunks : (∀ chunk ∈ batch.split records, level.Accepts chunk.length) ↔
      batch.Admits level records.length :=
    BatchSize.forall_split level.accepts_zero fun _ _ le h => h.mono le
  unfold selectIds BatchSize.collectM select
  rw [mapM_guard]
  by_cases admits : batch.Admits level records.length
  · rw [if_pos admits, if_pos (chunks.mpr admits)]
    rfl
  · rw [if_neg admits, if_neg (mt chunks.mp admits)]
    rfl

theorem lookup_idsOf {records : List level.Record} {record : level.Record} {id : RowId} :
    (db.idsOf batch level records).lookup record = some id ↔
      record ∈ records ∧ (id, record) ∈ (db.table level).rows := by
  unfold idsOf
  constructor
  · intro h
    exact mem_matching.mp (mem_firstPerKey (mem_of_lookup h))
  · intro h
    have hkey : record ∈ (batch.collect (db.table level).matching records).map Prod.fst :=
      List.mem_map.mpr ⟨(record, id), mem_matching.mpr h, rfl⟩
    obtain ⟨found, hfound⟩ := lookup_exists (mem_firstPerKey_keys.mpr hkey)
    have hrow := (mem_matching.mp (mem_firstPerKey (mem_of_lookup hfound))).2
    rw [hfound, Table.id_unique hrow h.2]

theorem mem_absentIds {ids : List RowId} {id : RowId} :
    id ∈ db.absentIds batch level ids ↔ id ∈ ids ∧ id ∉ (db.table level).ids := by
  unfold absentIds
  rw [List.mem_filter, decide_eq_true_eq, Table.mem_presentAmong, mem_ascending]
  exact ⟨fun ⟨h, hn⟩ => ⟨h, fun hm => hn ⟨h, hm⟩⟩, fun ⟨h, hn⟩ => ⟨h, fun hm => hn hm.2⟩⟩

theorem absentIds_eq_nil {ids : List RowId} :
    db.absentIds batch level ids = [] ↔ ∀ id ∈ ids, id ∈ (db.table level).ids := by
  rw [List.eq_nil_iff_forall_not_mem]
  constructor
  · intro h id hid
    exact Decidable.byContradiction fun hn => h id (mem_absentIds.mpr ⟨hid, hn⟩)
  · intro h id hid
    obtain ⟨hid, hn⟩ := mem_absentIds.mp hid
    exact hn (h id hid)

theorem mem_parentIds {parents : List (Level × RowId)} {level : Level} {id : RowId} :
    id ∈ (parents.filter fun parent => parent.1 = level).map Prod.snd ↔ (level, id) ∈ parents := by
  constructor
  · intro h
    obtain ⟨parent, hparent, rfl⟩ := List.mem_map.mp h
    obtain ⟨hmem, hlevel⟩ := List.mem_filter.mp hparent
    cases of_decide_eq_true hlevel
    exact hmem
  · intro h
    exact List.mem_map.mpr ⟨(level, id), List.mem_filter.mpr ⟨h, decide_eq_true rfl⟩, rfl⟩

theorem missingParents_eq_none {parents : List (Level × RowId)} :
    db.missingParents batch parents = none ↔
      ∀ parent ∈ parents, parent.2 ∈ (db.table parent.1).ids := by
  unfold missingParents
  rw [List.findSome?_eq_none_iff]
  constructor
  · intro h parent hparent
    have hlevel := h parent.1 (by cases parent.1 <;> simp)
    simp only at hlevel
    split at hlevel
    next hnil => exact absentIds_eq_nil.mp hnil parent.2 (mem_parentIds.mpr hparent)
    next => simp at hlevel
  · intro h level _
    have hnil : db.absentIds batch level
        ((parents.filter fun parent => parent.1 = level).map Prod.snd) = [] :=
      absentIds_eq_nil.mpr fun id hid => h (level, id) (mem_parentIds.mp hid)
    simp only [hnil]

end Database

end Termbase
