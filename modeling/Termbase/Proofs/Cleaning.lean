import Mathlib.Tactic.ByContra
import Termbase.Proofs.Linking

namespace Termbase

theorem Table.mem_pointedAt {ρ : Type} {batch : BatchSize} {table : Table ρ} {parent : ρ → RowId}
    {ids : List RowId} {id : RowId} :
    id ∈ batch.collect (table.pointedAt parent) ids ↔
      id ∈ ids ∧ ∃ row ∈ table.rows, parent row.2 = id := by
  rw [BatchSize.mem_collect (p := fun x y => x = y ∧ ∃ row ∈ table.rows, parent row.2 = y)]
  · exact ⟨fun ⟨_, hx, he, hrow⟩ => ⟨he ▸ hx, hrow⟩, fun ⟨hx, hrow⟩ => ⟨id, hx, rfl, hrow⟩⟩
  · intro chunk
    unfold pointedAt
    rw [List.mem_filter, decide_eq_true_eq]
    constructor
    · rintro ⟨hid, hx⟩
      obtain ⟨record, hrecord, rfl⟩ := List.mem_map.mp hid
      obtain ⟨row, hrow, rfl⟩ := List.mem_map.mp hrecord
      exact ⟨_, hx, rfl, row, hrow, rfl⟩
    · rintro ⟨_, hx, rfl, row, hrow, he⟩
      exact ⟨List.mem_map.mpr ⟨row.2, List.mem_map.mpr ⟨row, hrow, rfl⟩, he⟩, hx⟩

namespace Database

theorem mem_unreferenced {ρ : Type} {batch : BatchSize} {above : Table ρ} {parent : ρ → RowId}
    {ids : List RowId} {id : RowId} :
    id ∈ unreferenced batch above parent ids ↔
      id ∈ ids ∧ ∀ row ∈ above.rows, parent row.2 ≠ id := by
  unfold unreferenced
  simp only
  rw [mem_ascending, List.mem_filter, decide_eq_true_eq, Table.mem_pointedAt]
  constructor
  · exact fun ⟨h, hn⟩ => ⟨h, fun row hrow he => hn ⟨h, row, hrow, he⟩⟩
  · exact fun ⟨h, hn⟩ => ⟨h, fun ⟨_, row, hrow, he⟩ => hn row hrow he⟩

theorem mem_parentsOf {ρ : Type} {batch : BatchSize} {table : Table ρ} {parent : ρ → RowId}
    {ids : List RowId} {id : RowId} :
    id ∈ parentsOf batch table parent ids ↔
      ∃ row ∈ table.rows, row.1 ∈ ids ∧ parent row.2 = id := by
  unfold parentsOf
  rw [BatchSize.mem_collect (p := fun x y => ∃ row ∈ table.rows, row.1 = x ∧ parent row.2 = y)]
  · constructor
    · rintro ⟨_, hx, row, hrow, rfl, he⟩
      exact ⟨row, hrow, hx, he⟩
    · rintro ⟨row, hrow, hx, he⟩
      exact ⟨row.1, hx, row, hrow, rfl, he⟩
  · intro chunk
    constructor
    · intro h
      obtain ⟨record, hrecord, he⟩ := List.mem_map.mp h
      obtain ⟨row, hrow, rfl⟩ := List.mem_map.mp hrecord
      obtain ⟨hrow, hx⟩ := List.mem_filter.mp hrow
      exact ⟨row.1, of_decide_eq_true hx, row, hrow, rfl, he⟩
    · rintro ⟨_, hx, row, hrow, rfl, he⟩
      refine List.mem_map.mpr ⟨row.2, List.mem_map.mpr ⟨row, ?_, rfl⟩, he⟩
      exact List.mem_filter.mpr ⟨hrow, decide_eq_true hx⟩

variable {db : Database} {batch : BatchSize} {ids : List RowId}

/-- A cleanup takes the listed terms that nobody links to. -/
theorem mem_clean_termInLang {row : RowId × TermInLang} :
    row ∈ (db.clean batch ids).2.termInLang.rows ↔
      row ∈ db.termInLang.rows ∧ ¬(row.1 ∈ ids ∧ ¬db.Linked row.1) := by
  unfold clean
  simp only
  rw [Table.mem_eraseAll, Table.mem_presentAmong, mem_unlinked]
  constructor
  · rintro ⟨hrow, hn⟩
    exact ⟨hrow, fun h => hn ⟨h, Table.mem_ids.mpr ⟨row.2, hrow⟩⟩⟩
  · rintro ⟨hrow, hn⟩
    exact ⟨hrow, fun h => hn h.1⟩

/-- A cleanup takes the texts in languages that a taken term pointed at and no other term points
at. -/
theorem mem_clean_textInLang {row : RowId × TextInLang} :
    row ∈ (db.clean batch ids).2.textInLang.rows ↔
      row ∈ db.textInLang.rows ∧
        ¬((∃ term ∈ db.termInLang.rows, (term.1 ∈ ids ∧ ¬db.Linked term.1) ∧
            term.2.textInLangId = row.1) ∧
          ∀ term ∈ (db.clean batch ids).2.termInLang.rows, term.2.textInLangId ≠ row.1) := by
  unfold clean
  simp only
  rw [Table.mem_eraseAll, mem_unreferenced, mem_parentsOf]
  simp only [mem_unlinked]

theorem mem_clean_text {row : RowId × String} :
    row ∈ (db.clean batch ids).2.text.rows ↔
      row ∈ db.text.rows ∧
        ¬((∃ below ∈ db.textInLang.rows,
            below ∉ (db.clean batch ids).2.textInLang.rows ∧ below.2.textId = row.1) ∧
          ∀ below ∈ (db.clean batch ids).2.textInLang.rows, below.2.textId ≠ row.1) := by
  have taken : ∀ below ∈ db.textInLang.rows,
      (below ∉ (db.clean batch ids).2.textInLang.rows ↔
        below.1 ∈ unreferenced batch (db.clean batch ids).2.termInLang TermInLang.textInLangId
          (parentsOf batch db.termInLang TermInLang.textInLangId (db.unlinked batch ids))) := by
    intro below hbelow
    unfold clean
    simp only
    rw [Table.mem_eraseAll, not_and, Decidable.not_not]
    exact ⟨fun h => h hbelow, fun h _ => h⟩
  have hrow : row ∈ (db.clean batch ids).2.text.rows ↔ row ∈ db.text.rows ∧
      row.1 ∉ unreferenced batch (db.clean batch ids).2.textInLang TextInLang.textId
        (parentsOf batch db.textInLang TextInLang.textId
          (unreferenced batch (db.clean batch ids).2.termInLang TermInLang.textInLangId
            (parentsOf batch db.termInLang TermInLang.textInLangId
              (db.unlinked batch ids)))) := Table.mem_eraseAll
  rw [hrow, mem_unreferenced, mem_parentsOf]
  constructor
  · rintro ⟨hmem, hn⟩
    refine ⟨hmem, fun ⟨⟨below, hbelow, hgone, he⟩, hkept⟩ => hn ⟨⟨below, hbelow, ?_, he⟩, hkept⟩⟩
    exact (taken below hbelow).mp hgone
  · rintro ⟨hmem, hn⟩
    refine ⟨hmem, fun ⟨⟨below, hbelow, hgone, he⟩, hkept⟩ => hn ⟨⟨below, hbelow, ?_, he⟩, hkept⟩⟩
    exact (taken below hbelow).mpr hgone

@[simp]
theorem links_clean (kind : EntityKind) : (db.clean batch ids).2.links kind = db.links kind := by
  cases kind <;> rfl

theorem lastId_clean (level : Level) :
    ((db.clean batch ids).2.table level).lastId = (db.table level).lastId := by
  cases level <;> exact Table.eraseAll_lastId _ _ _

/-- A cleanup adds no row at any level. -/
theorem mem_of_mem_clean {level : Level} {row : RowId × level.Record}
    (h : row ∈ ((db.clean batch ids).2.table level).rows) : row ∈ (db.table level).rows := by
  cases level with
  | text => exact (mem_clean_text.mp h).1
  | textInLang => exact (mem_clean_textInLang.mp h).1
  | termInLang => exact (mem_clean_termInLang.mp h).1

/-- Some row of the level above points at the row with this id. -/
def Referenced (db : Database) (level : Level) (id : RowId) : Prop :=
  ∃ above, ∃ row ∈ (db.table above).rows, above.parent? row.2 = some (level, id)

theorem referenced_text {id : RowId} :
    db.Referenced .text id ↔ ∃ row ∈ db.textInLang.rows, row.2.textId = id := by
  constructor
  · rintro ⟨above, row, hrow, hparent⟩
    cases above with
    | text => simp [Level.parent?] at hparent
    | textInLang =>
      cases Option.some.inj hparent
      exact ⟨row, hrow, rfl⟩
    | termInLang => cases hparent
  · rintro ⟨row, hrow, rfl⟩
    exact ⟨.textInLang, row, hrow, rfl⟩

theorem referenced_textInLang {id : RowId} :
    db.Referenced .textInLang id ↔ ∃ row ∈ db.termInLang.rows, row.2.textInLangId = id := by
  constructor
  · rintro ⟨above, row, hrow, hparent⟩
    cases above with
    | text => simp [Level.parent?] at hparent
    | textInLang => cases hparent
    | termInLang =>
      cases Option.some.inj hparent
      exact ⟨row, hrow, rfl⟩
  · rintro ⟨row, hrow, rfl⟩
    exact ⟨.termInLang, row, hrow, rfl⟩

/-- A cleanup that takes all rows that point at a row takes the row too. -/
theorem Referenced.clean {level : Level} {row : RowId × level.Record}
    (before : db.Referenced level row.1)
    (stays : row ∈ ((db.clean batch ids).2.table level).rows) :
    (db.clean batch ids).2.Referenced level row.1 := by
  by_contra unreferenced
  cases level with
  | text =>
    obtain ⟨above, habove, hid⟩ := referenced_text.mp before
    have others : ∀ other ∈ (db.clean batch ids).2.textInLang.rows, other.2.textId ≠ row.1 :=
      fun other hother he => unreferenced (referenced_text.mpr ⟨other, hother, he⟩)
    exact (mem_clean_text.mp stays).2
      ⟨⟨above, habove, fun kept => others above kept hid, hid⟩, others⟩
  | textInLang =>
    obtain ⟨above, habove, hid⟩ := referenced_textInLang.mp before
    have others : ∀ other ∈ (db.clean batch ids).2.termInLang.rows,
        other.2.textInLangId ≠ row.1 :=
      fun other hother he => unreferenced (referenced_textInLang.mpr ⟨other, hother, he⟩)
    have taken : above.1 ∈ ids ∧ ¬db.Linked above.1 := by
      by_contra kept
      exact others above (mem_clean_termInLang.mpr ⟨habove, kept⟩) hid
    exact (mem_clean_textInLang.mp stays).2 ⟨⟨above, habove, taken, hid⟩, others⟩
  | termInLang =>
    obtain ⟨above, other, _, hparent⟩ := before
    cases above <;> simp [Level.parent?] at hparent

end Database

end Termbase
