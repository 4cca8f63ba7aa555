import Termbase.Proofs.Batching
import Termbase.Proofs.Integrity
import Termbase.Proofs.Refinement

namespace Termbase

/-- The ids that a report names at a level. -/
def CleanupReport.ids (report : CleanupReport) : Level → List RowId
  | .text => report.text
  | .textInLang => report.textInLang
  | .termInLang => report.termInLang

namespace Table

variable {ρ : Type} {table : Table ρ} {ids gone : List RowId} {id : RowId} {parent : ρ → RowId}

theorem mem_ids_erase : id ∈ (table.erase ids).ids ↔ id ∈ table.ids ∧ id ∉ ids := by
  simp only [mem_ids, mem_erase]
  constructor
  · rintro ⟨record, hrow, kept⟩
    exact ⟨⟨record, hrow⟩, kept⟩
  · rintro ⟨⟨record, hrow⟩, kept⟩
    exact ⟨record, hrow, kept⟩

/-- A row that is gone pointed at the id, and no row that stays does. -/
def Orphans (table : Table ρ) (parent : ρ → RowId) (gone : List RowId) (id : RowId) : Prop :=
  (∃ row ∈ table.rows, row.1 ∈ gone ∧ parent row.2 = id) ∧
    ∀ row ∈ table.rows, row.1 ∉ gone → parent row.2 ≠ id

end Table

namespace Database

/-- The database without the rows that a report names. All else is as it was, and ids that have
been used stay used. -/
def without (db : Database) (report : CleanupReport) : Database :=
  { db with
    text := db.text.erase report.text
    textInLang := db.textInLang.erase report.textInLang
    termInLang := db.termInLang.erase report.termInLang }

/-- A report that names just what a cleanup for some ids has to take: of the listed terms those
that no entity links to and, level by level, the rows that only taken rows pointed at. -/
structure Sweeps (db : Database) (ids : List RowId) (report : CleanupReport) : Prop where
  ascending : ∀ level, (report.ids level).Pairwise (· < ·)
  terms : ∀ id, id ∈ report.termInLang ↔ id ∈ db.termInLang.ids ∧ id ∈ ids ∧ ¬db.Linked id
  textsInLang : ∀ id, id ∈ report.textInLang ↔
    id ∈ db.textInLang.ids ∧ db.termInLang.Orphans TermInLang.textInLangId report.termInLang id
  texts : ∀ id, id ∈ report.text ↔
    id ∈ db.text.ids ∧ db.textInLang.Orphans TextInLang.textId report.textInLang id

variable {db : Database} {batch : BatchSize} {ids others : List RowId}
  {report rest whole : CleanupReport} {level : Level} {id : RowId}

theorem linked_without : (db.without report).Linked id ↔ db.Linked id := by
  have links : ∀ kind, (db.without report).links kind = db.links kind := by
    intro kind
    cases kind <;> rfl
  simp only [Linked, links]

namespace Sweeps

theorem present (sweeps : db.Sweeps ids report) (h : id ∈ report.ids level) :
    id ∈ (db.table level).ids := by
  cases level with
  | text => exact ((sweeps.texts id).mp h).1
  | textInLang => exact ((sweeps.textsInLang id).mp h).1
  | termInLang => exact ((sweeps.terms id).mp h).1

/-- Nothing is taken when every listed term that is there has a link. -/
theorem eq_empty (sweeps : db.Sweeps ids report)
    (linked : ∀ id ∈ ids, id ∈ db.termInLang.ids → db.Linked id) : report = .empty := by
  have terms : report.termInLang = [] := by
    refine List.eq_nil_iff_forall_not_mem.mpr fun id hid => ?_
    obtain ⟨there, listed, unlinked⟩ := (sweeps.terms id).mp hid
    exact unlinked (linked id listed there)
  have textsInLang : report.textInLang = [] := by
    refine List.eq_nil_iff_forall_not_mem.mpr fun id hid => ?_
    obtain ⟨_, ⟨row, _, gone, _⟩, _⟩ := (sweeps.textsInLang id).mp hid
    simp [terms] at gone
  have texts : report.text = [] := by
    refine List.eq_nil_iff_forall_not_mem.mpr fun id hid => ?_
    obtain ⟨_, ⟨row, _, gone, _⟩, _⟩ := (sweeps.texts id).mp hid
    simp [textsInLang] at gone
  cases report
  simp_all only [CleanupReport.empty]

theorem congr (sweeps : db.Sweeps ids report) (same : ∀ id, id ∈ ids ↔ id ∈ others) :
    db.Sweeps others report :=
  { sweeps with terms := fun id => by rw [← same id]; exact sweeps.terms id }

/-- After a cleanup another one for the same ids has nothing to take. -/
theorem again (sweeps : db.Sweeps ids report) (more : (db.without report).Sweeps ids rest) :
    rest = .empty := by
  refine more.eq_empty fun id listed there => ?_
  rw [linked_without]
  obtain ⟨there, kept⟩ := Table.mem_ids_erase.mp there
  by_contra unlinked
  exact kept ((sweeps.terms id).mpr ⟨there, listed, unlinked⟩)

section Twice

variable (first : db.Sweeps ids report) (second : (db.without report).Sweeps others rest)

variable (both : db.Sweeps (ids ++ others) whole)

include first second both

end Twice

end Sweeps

end Database

/-- One text is a label in two languages and another name in the second of them. -/
def manifoldStorage : Storage :=
  ((performAll [.acquire directStore (TermMap.empty.put .label "de" ["cat"]),
    .acquire directStore oneLabel,
    .acquire directStore (TermMap.empty.put .synonym "en" ["cat"])]).run
      (Timeline.start Table.empty Database.empty)).2.storage

end Termbase
