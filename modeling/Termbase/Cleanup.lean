import Termbase.Interning.RecordIds

namespace Termbase

/-- The ids of the rows that a cleanup has removed, ascending at each level. -/
structure CleanupReport where
  termInLang : List RowId
  textInLang : List RowId
  text : List RowId
  deriving DecidableEq, Repr

namespace CleanupReport

def empty : CleanupReport := ⟨[], [], []⟩

def isEmpty (report : CleanupReport) : Bool :=
  report.termInLang.isEmpty && report.textInLang.isEmpty && report.text.isEmpty

end CleanupReport

def Table.recordsOf {ρ : Type} (table : Table ρ) (ids : List RowId) : List ρ :=
  (table.rows.filter fun row => row.1 ∈ ids).map Prod.snd

def Table.eraseAll {ρ : Type} (table : Table ρ) (batch : BatchSize) (ids : List RowId) : Table ρ :=
  (batch.split ids).foldl Table.erase table

def Table.pointedAt {ρ : Type} (table : Table ρ) (parent : ρ → RowId) (ids : List RowId) :
    List RowId :=
  (table.records.map parent).filter fun id => id ∈ ids

namespace Database

def unlinked (db : Database) (batch : BatchSize) (ids : List RowId) : List RowId :=
  let linked := EntityKind.all.flatMap fun kind => batch.collect (db.links kind).linkedAmong ids
  ascending (ids.filter fun id => id ∉ linked)

/-- Those of some ids that no row of the table above points at, ascending. -/
def unreferenced {ρ : Type} (batch : BatchSize) (above : Table ρ) (parent : ρ → RowId)
    (ids : List RowId) : List RowId :=
  let referenced := batch.collect (above.pointedAt parent) ids
  ascending (ids.filter fun id => id ∉ referenced)

def parentsOf {ρ : Type} (batch : BatchSize) (table : Table ρ) (parent : ρ → RowId)
    (ids : List RowId) : List RowId :=
  batch.collect (fun chunk => (table.recordsOf chunk).map parent) ids

/-- Removes the rows of those term ids that no entity links to, and then, level by level, the rows
that only removed rows pointed at. -/
def clean (db : Database) (batch : BatchSize) (ids : List RowId) : CleanupReport × Database :=
  let unused := db.unlinked batch ids
  let existing := batch.collect db.termInLang.presentAmong unused
  let termInLang := db.termInLang.eraseAll batch existing
  let textsInLang := unreferenced batch termInLang TermInLang.textInLangId
    (parentsOf batch db.termInLang TermInLang.textInLangId unused)
  let textInLang := db.textInLang.eraseAll batch textsInLang
  let texts := unreferenced batch textInLang TextInLang.textId
    (parentsOf batch db.textInLang TextInLang.textId textsInLang)
  let text := db.text.eraseAll batch texts
  (⟨ascending existing, textsInLang, texts⟩,
    { db with termInLang := termInLang, textInLang := textInLang, text := text })

end Database

def clean (batch : BatchSize) (ids : List RowId) : Action Storage CleanupReport :=
  if ids.isEmpty then return CleanupReport.empty
  else Action.transact fun db => .ok (db.clean batch ids)

end Termbase
