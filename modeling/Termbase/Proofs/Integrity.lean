import Termbase.Proofs.Acquiring
import Termbase.Proofs.Cleaning
import Termbase.Proofs.Timeline

namespace Termbase

/-- Every interned row points at a row that is there. -/
structure Database.Intact (db : Database) : Prop where
  textInLang : ∀ row ∈ db.textInLang.rows, row.2.textId ∈ db.text.ids
  termInLang : ∀ row ∈ db.termInLang.rows, row.2.textInLangId ∈ db.textInLang.ids

namespace Database.Intact

variable {db : Database}

theorem parent (h : db.Intact) {level : Level} {row : RowId × level.Record}
    (hrow : row ∈ (db.table level).rows) {parent : Level × RowId}
    (hparent : level.parent? row.2 = some parent) : parent.2 ∈ (db.table parent.1).ids := by
  cases level with
  | text => simp [Level.parent?] at hparent
  | textInLang =>
    cases Option.some.inj hparent
    exact h.textInLang row hrow
  | termInLang =>
    cases Option.some.inj hparent
    exact h.termInLang row hrow

theorem of_parents (h : ∀ level, ∀ row ∈ (db.table level).rows, ∀ parent,
    level.parent? row.2 = some parent → parent.2 ∈ (db.table parent.1).ids) : db.Intact :=
  ⟨fun row hrow => h .textInLang row hrow _ rfl, fun row hrow => h .termInLang row hrow _ rfl⟩

theorem empty : Database.empty.Intact :=
  ⟨fun _ hrow => by simp [Database.empty, Table.empty] at hrow,
    fun _ hrow => by simp [Database.empty, Table.empty] at hrow⟩

theorem withTypeCodes (h : db.Intact) (codes : Table String) :
    ({ db with typeCodes := codes } : Database).Intact :=
  ⟨h.textInLang, h.termInLang⟩

theorem withLinks (h : db.Intact) (kind : EntityKind) (links : Links) :
    (db.withLinks kind links).Intact := by
  refine of_parents fun level row hrow parent hparent => ?_
  rw [table_withLinks] at hrow ⊢
  exact h.parent hrow hparent

/-- New rows are only added above rows that are there, so they leave nothing without a parent. -/
theorem insertRecords {storage : Storage} (h : storage.primary.Intact) {batch : BatchSize}
    {level : Level} {rows : List (level.Record × Option RowId)} {primary : Database}
    (hinsert : storage.primary.insertRecords batch level rows = .ok ((), primary)) :
    primary.Intact := by
  have hgrows := Database.insertRecords_grows hinsert
  obtain ⟨hparents, table, htable, rfl⟩ := Database.insertRecords_ok hinsert
  refine of_parents fun other row hrow parent hparent => hgrows.ids ?_
  by_cases same : other = level
  · subst same
    rw [table_withTable] at hrow
    rcases (Table.insertAll_extends htable).1.mem_or hrow with hold | hnew
    · exact h.parent hold hparent
    · obtain ⟨pair, hpair, he⟩ := List.mem_map.mp hnew
      exact hparents pair hpair parent (he ▸ hparent)
  · rw [table_withTable_of_ne same] at hrow
    exact h.parent hrow hparent

/-- A cleanup takes a row only when no row that stays points at it. -/
theorem clean (h : db.Intact) (batch : BatchSize) (ids : List RowId) :
    (db.clean batch ids).2.Intact := by
  constructor
  · intro row hrow
    have hbefore := (mem_clean_textInLang.mp hrow).1
    obtain ⟨text, htext⟩ := Table.mem_ids.mp (h.textInLang row hbefore)
    refine Table.mem_ids.mpr ⟨text, mem_clean_text.mpr ⟨htext, fun gone => ?_⟩⟩
    exact gone.2 row hrow rfl
  · intro row hrow
    have hbefore := (mem_clean_termInLang.mp hrow).1
    obtain ⟨record, hrecord⟩ := Table.mem_ids.mp (h.termInLang row hbefore)
    refine Table.mem_ids.mpr ⟨record, mem_clean_textInLang.mpr ⟨hrecord, fun gone => ?_⟩⟩
    exact gone.2 row hrow rfl

end Database.Intact

def Storage.KeepsIntact (storage after : Storage) : Prop :=
  storage.primary.Intact → after.primary.Intact

namespace Storage.KeepsIntact

theorem refl (storage : Storage) : storage.KeepsIntact storage := fun h => h

theorem trans (a b c : Storage) (hab : a.KeepsIntact b) (hbc : b.KeepsIntact c) :
    a.KeepsIntact c :=
  fun h => hbc (hab h)

end Storage.KeepsIntact

theorem acquireIds_keepsIntact (batch : BatchSize) (source : Source) (level : Level)
    (records : List level.Record) (forced : Option (ForcedIds level)) :
    (acquireIds batch source level records forced).Within Storage.KeepsIntact := by
  intro storage intact
  rcases hrun : (acquireIds batch source level records forced).run storage with ⟨outcome, after⟩
  rcases (acquireIds_acquires hrun).after_cases with rfl | ⟨primary, hinsert, rfl⟩
  · exact intact
  · exact intact.insertRecords hinsert

theorem replaceLinks_keepsIntact (entity : EntityId) (ids : List RowId) :
    (replaceLinks entity ids).Within Storage.KeepsIntact :=
  .transact Storage.KeepsIntact.refl fun _ _ _ h intact =>
    (Prod.mk.inj (Except.ok.inj h)).2 ▸ intact.withLinks _ _

theorem removeLinks_keepsIntact (entity : EntityId) :
    (removeLinks entity).Within Storage.KeepsIntact :=
  .transact Storage.KeepsIntact.refl fun _ _ _ h intact =>
    (Prod.mk.inj (Except.ok.inj h)).2 ▸ intact.withLinks _ _

theorem clean_keepsIntact (batch : BatchSize) (ids : List RowId) :
    (clean batch ids).Within Storage.KeepsIntact :=
  clean_within Storage.KeepsIntact.refl (fun _ ids intact => intact.clean batch ids) ids

theorem registerTypes_keepsIntact (types : List TermType) :
    (registerTypes types).Within Storage.KeepsIntact :=
  registerTypes_within Storage.KeepsIntact.refl Storage.KeepsIntact.trans
    (fun _ codes intact => intact.withTypeCodes codes) types

/-- The primary is intact, and so it has been all the time. -/
def Timeline.AlwaysIntact (timeline : Timeline) : Prop :=
  timeline.storage.primary.Intact ∧ ∀ db ∈ timeline.past, db.Intact

namespace Timeline.AlwaysIntact

theorem start (codes : Table String) (replica : Database) :
    (Timeline.start codes replica).AlwaysIntact := by
  have intact := Database.Intact.empty.withTypeCodes codes
  refine ⟨intact, fun db hdb => ?_⟩
  rw [List.mem_singleton.mp hdb]
  exact intact

theorem noted {timeline : Timeline} (h : timeline.AlwaysIntact) : timeline.noted.AlwaysIntact := by
  refine ⟨h.1, fun db hdb => ?_⟩
  rcases List.mem_cons.mp hdb with rfl | hdb
  · exact h.1
  · exact h.2 db hdb

theorem stored (timeline : Timeline) (after : Storage) (kept : timeline.storage.KeepsIntact after)
    (h : timeline.AlwaysIntact) : ({ timeline with storage := after } : Timeline).AlwaysIntact :=
  ⟨kept h.1, h.2⟩

end Timeline.AlwaysIntact

theorem runs_alwaysIntact : LedBy (fun _ => True)
    (fun timeline after => timeline.AlwaysIntact → after.AlwaysIntact) := by
  refine .of_actions (fun _ h => h) (fun _ _ _ hab hbc h => hbc (hab h)) (fun _ h => h.noted)
    Storage.KeepsIntact.refl Storage.KeepsIntact.trans Timeline.AlwaysIntact.stored
    (fun _ _ _ _ _ _ _ _ => trivial) (fun _ store _ _ => ?_)
    (fun batch source level records forced _ => ?_) (fun _ entity _ _ => ?_)
    (fun _ entity _ => removeLinks_keepsIntact entity) clean_keepsIntact registerTypes_keepsIntact
    (fun _ _ h => h)
  · exact internFrom_within Storage.KeepsIntact.refl Storage.KeepsIntact.trans
      fun source level records forced _ =>
        acquireIds_keepsIntact store.batch source level records forced
  · exact acquireIds_keepsIntact batch source level records forced
  · exact replaceLinks_keepsIntact entity

/-- Whatever is done, whether it succeeds or fails, and whatever the replica holds meanwhile: at no
moment does a row of the primary point at a row that is not there. -/
theorem primary_alwaysIntact (operations : List Operation) (codes : Table String)
    (replica : Database) :
    let timeline := ((performAll operations).run (Timeline.start codes replica)).2
    ∀ db ∈ timeline.storage.primary :: timeline.past,
      (∀ row ∈ db.textInLang.rows, row.2.textId ∈ db.text.ids) ∧
        ∀ row ∈ db.termInLang.rows, row.2.textInLangId ∈ db.textInLang.ids := by
  have kept := runs_alwaysIntact.performAll operations (fun _ _ => trivial)
    (Timeline.start codes replica) (Timeline.AlwaysIntact.start codes replica)
  intro timeline db hdb
  have intact : db.Intact := by
    rcases List.mem_cons.mp hdb with rfl | hdb
    · exact kept.1
    · exact kept.2 db hdb
  exact ⟨intact.textInLang, intact.termInLang⟩

end Termbase
