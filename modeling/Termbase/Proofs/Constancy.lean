import Mathlib.Data.List.Pairwise
import Termbase.Proofs.Acquisition

namespace Termbase

theorem either_of_pairwise {α : Type} {related : α → α → Prop} {xs : List α}
    (h : xs.Pairwise related) (refl : ∀ x ∈ xs, related x x) {a b : α} (ha : a ∈ xs)
    (hb : b ∈ xs) : related a b ∨ related b a := by
  have : Std.Symm fun x y => related x y ∨ related y x := ⟨fun _ _ => Or.symm⟩
  exact List.Pairwise.forall_of_forall (R := fun x y => related x y ∨ related y x)
    (fun x hx => Or.inl (refl x hx)) (h.imp Or.inl) ha hb

/-- Every row of the later table was there before or has an id beyond all that were used before. -/
structure Table.Renews {ρ : Type} (table later : Table ρ) : Prop where
  lastId_le : table.lastId ≤ later.lastId
  rows : ∀ row ∈ later.rows, row ∈ table.rows ∨ table.lastId < row.1

namespace Table.Renews

variable {ρ : Type} {table later : Table ρ}

theorem refl (table : Table ρ) : table.Renews table :=
  ⟨Int64.le_refl _, fun _ hrow => Or.inl hrow⟩

theorem trans {a b c : Table ρ} (hab : a.Renews b) (hbc : b.Renews c) : a.Renews c := by
  refine ⟨Int64.le_trans hab.lastId_le hbc.lastId_le, fun row hrow => ?_⟩
  rcases hbc.rows row hrow with hrow | hbeyond
  · exact hab.rows row hrow
  · exact Or.inr (Int64.lt_of_le_of_lt hab.lastId_le hbeyond)

theorem of_rows (lastId : later.lastId = table.lastId)
    (rows : ∀ row ∈ later.rows, row ∈ table.rows) : table.Renews later :=
  ⟨Int64.le_of_eq lastId.symm, fun row hrow => Or.inl (rows row hrow)⟩

theorem constant (h : table.Renews later) {id : RowId} {record other : ρ}
    (hrow : (id, record) ∈ table.rows) (hlater : (id, other) ∈ later.rows) : record = other := by
  rcases h.rows _ hlater with hold | hbeyond
  · exact table.record_unique hrow hold
  · have hle := table.ids_le_lastId _ hrow
    exact absurd (Int64.lt_of_lt_of_le hbeyond hle) (Int64.lt_irrefl)

variable [DecidableEq ρ]

theorem insert {record : ρ} (h : table.insert record none = some later) : table.Renews later := by
  obtain ⟨hle, ⟨_, hrows⟩ | ⟨_, id, _, hrows, hforced | hfresh⟩⟩ := Table.insert_cases h
  · exact ⟨hle, fun row hrow => Or.inl (hrows ▸ hrow)⟩
  · simp at hforced
  · refine ⟨hle, fun row hrow => ?_⟩
    rw [hrows, List.mem_append, List.mem_singleton] at hrow
    rcases hrow with hrow | rfl
    · exact Or.inl hrow
    · exact Or.inr hfresh

theorem insertAll {table : Table ρ} {records : List ρ}
    (h : table.insertAll (records.map fun record => (record, none)) = some later) :
    table.Renews later := by
  induction records generalizing table with
  | nil =>
    cases Option.some.inj h
    exact refl _
  | cons record records ih =>
    obtain ⟨between, hinsert, hrest⟩ := Table.insertAll_cons h
    exact (insert hinsert).trans (ih hrest)

end Table.Renews

/-- Below the terms, no id comes back. A term id may come back, with another row. -/
def Database.Renews (db later : Database) : Prop :=
  ∀ level, level ≠ .termInLang → (db.table level).Renews (later.table level)

namespace Database.Renews

theorem refl (db : Database) : db.Renews db := fun _ _ => .refl _

theorem trans {a b c : Database} (hab : a.Renews b) (hbc : b.Renews c) : a.Renews c :=
  fun level below => (hab level below).trans (hbc level below)

theorem of_tables {db later : Database} (h : ∀ level, later.table level = db.table level) :
    db.Renews later := by
  intro level _
  rw [h level]
  exact .refl _

theorem withLinks (db : Database) (kind : EntityKind) (links : Links) :
    db.Renews (db.withLinks kind links) :=
  .of_tables (db.table_withLinks kind links)

theorem clean (db : Database) (batch : BatchSize) (ids : List RowId) :
    db.Renews (db.clean batch ids).2 :=
  fun level _ => .of_rows (lastId_clean level) fun _ hrow => mem_of_mem_clean hrow

theorem insertRecords {db later : Database} {batch : BatchSize} {level : Level}
    {records : List level.Record} {forced : Option (ForcedIds level)}
    (unforced : level ≠ .termInLang → forced = none)
    (h : db.insertRecords batch level (forcedRows forced records) = .ok ((), later)) :
    db.Renews later := by
  obtain ⟨_, table, htable, rfl⟩ := insertRecords_ok h
  intro other below
  by_cases same : other = level
  · subst same
    rw [table_withTable]
    rcases forcedRows_cases forced records with hrows | ⟨known, _, hforced, _⟩
    · rw [hrows] at htable
      exact .insertAll htable
    · -- A forced id may be one that is gone, but only terms are given such ids.
      rw [unforced below] at hforced
      simp at hforced
  · rw [table_withTable_of_ne same]
    exact .refl _

end Database.Renews

section Actions

def Storage.Renews (storage after : Storage) : Prop := storage.primary.Renews after.primary

theorem Storage.Renews.refl (storage : Storage) : storage.Renews storage := Database.Renews.refl _

theorem Storage.Renews.trans (a b c : Storage) (hab : a.Renews b) (hbc : b.Renews c) :
    a.Renews c :=
  Database.Renews.trans hab hbc

theorem Acquires.renews {batch : BatchSize} {level : Level} {records : List level.Record}
    {forced : Option (ForcedIds level)} {known : Database} {storage after : Storage}
    {outcome : Except Failure (RecordIds level)}
    (h : Acquires batch level records forced known storage outcome after)
    (unforced : level ≠ .termInLang → forced = none) : storage.Renews after := by
  rcases h.after_cases with rfl | ⟨primary, hinsert, rfl⟩
  · exact .refl after
  · exact .insertRecords unforced hinsert

theorem acquireIds_renews (batch : BatchSize) (source : Source) (level : Level)
    (records : List level.Record) (forced : Option (ForcedIds level))
    (unforced : level ≠ .termInLang → forced = none) :
    (acquireIds batch source level records forced).Within Storage.Renews :=
  fun _ => (acquireIds_acquires rfl).renews unforced

theorem replaceLinks_renews (entity : EntityId) (ids : List RowId) :
    (replaceLinks entity ids).Within Storage.Renews :=
  .transact .refl fun _ _ _ h => (Prod.mk.inj (Except.ok.inj h)).2 ▸ .withLinks _ _ _

theorem removeLinks_renews (entity : EntityId) :
    (removeLinks entity).Within Storage.Renews :=
  .transact .refl fun _ _ _ h => (Prod.mk.inj (Except.ok.inj h)).2 ▸ .withLinks _ _ _

theorem clean_renews (batch : BatchSize) (ids : List RowId) :
    (clean batch ids).Within Storage.Renews :=
  clean_within .refl (fun storage ids => .clean storage.primary batch ids) ids

theorem registerTypes_renews (types : List TermType) :
    (registerTypes types).Within Storage.Renews := by
  refine registerTypes_within .refl .trans (fun storage codes => ?_) types
  refine .of_tables fun level => ?_
  cases level <;> rfl

end Actions

/-- No state that the primary has been in brings back an id of an earlier one. -/
def Timeline.Renewing (timeline : Timeline) : Prop :=
  (timeline.storage.primary :: timeline.past).Pairwise fun later db => db.Renews later

namespace Timeline.Renewing

theorem noted {timeline : Timeline} (h : timeline.Renewing) : timeline.noted.Renewing := by
  refine List.pairwise_cons.mpr ⟨fun db hdb => ?_, h⟩
  rcases List.mem_cons.mp hdb with rfl | hdb
  · exact .refl _
  · exact (List.pairwise_cons.mp h).1 db hdb

theorem stored (timeline : Timeline) (after : Storage) (renews : timeline.storage.Renews after)
    (h : timeline.Renewing) : ({ timeline with storage := after } : Timeline).Renewing := by
  obtain ⟨hlatest, hpast⟩ := List.pairwise_cons.mp h
  exact List.pairwise_cons.mpr ⟨fun db hdb => (hlatest db hdb).trans renews, hpast⟩

theorem start (codes : Table String) (replica : Database) :
    (Timeline.start codes replica).Renewing := by
  refine List.pairwise_cons.mpr ⟨fun db hdb => ?_, List.pairwise_singleton _ _⟩
  rw [List.mem_singleton.mp hdb]
  exact .refl _

/-- A row that was there at one moment and one with its id at another moment are the same. -/
theorem constant {timeline : Timeline} (h : timeline.Renewing) {first second : Database}
    (hfirst : first ∈ timeline.storage.primary :: timeline.past)
    (hsecond : second ∈ timeline.storage.primary :: timeline.past) {level : Level}
    (below : level ≠ .termInLang) {id : RowId} {record other : level.Record}
    (hrow : (id, record) ∈ (first.table level).rows)
    (hother : (id, other) ∈ (second.table level).rows) : record = other := by
  rcases either_of_pairwise h (fun db _ => .refl db) hfirst hsecond with renews | renews
  · exact ((renews level below).constant hother hrow).symm
  · exact (renews level below).constant hrow hother

end Timeline.Renewing

theorem runs_renewing : LedBy Operation.Regular
    (fun timeline after => timeline.Renewing → after.Renewing) := by
  refine .of_actions (fun _ h => h) (fun _ _ _ hab hbc h => hbc (hab h)) (fun _ h => h.noted)
    Storage.Renews.refl Storage.Renews.trans Timeline.Renewing.stored ?_ (fun _ store _ _ =>
      internFrom_within Storage.Renews.refl Storage.Renews.trans (acquireIds_renews store.batch)) ?_
    (fun _ entity _ _ => replaceLinks_renews entity) (fun _ entity _ => removeLinks_renews entity)
    clean_renews registerTypes_renews (fun _ _ h => h)
  · intro store terms callback ending regular ids operation hoperation
    cases regular with
    | acquireWith _ _ _ _ nested => exact nested ids operation hoperation
  · intro batch source level records forced regular
    cases regular with
    | acquireIds => exact acquireIds_renews batch source level records none fun _ => rfl

/-- An id never changes what it means. At any two moments at which there is a term with an id, it
is the same text in the same language with the same type code, also when the term has been gone in
between and its text has got other ids. The ids of texts, and of texts in languages, do not even
come back. -/
theorem ids_keep_meaning {operations : List Operation}
    (regular : ∀ operation ∈ operations, operation.Regular) (codes : Table String) :
    let timeline := ((performAll operations).run (Timeline.start codes Database.empty)).2
    let moments := timeline.storage.primary :: timeline.past
    ∀ first ∈ moments, ∀ second ∈ moments,
      (∀ id ∈ first.termInLang.ids, id ∈ second.termInLang.ids →
        ∃ term, first.storedTerm? id = some term ∧ second.storedTerm? id = some term) ∧
      (∀ id record other, (id, record) ∈ first.textInLang.rows →
        (id, other) ∈ second.textInLang.rows → record = other) ∧
      ∀ id value other, (id, value) ∈ first.text.rows → (id, other) ∈ second.text.rows →
        value = other := by
  intro timeline moments first hfirst second hsecond
  obtain ⟨ledger, _, recalls⟩ := runs_accounted.performAll operations regular
    (Timeline.start codes Database.empty) Ledger.empty (Ledger.Recalls.start codes)
  have alwaysIntact := runs_alwaysIntact.performAll operations (fun _ _ => trivial)
    (Timeline.start codes Database.empty) (.start codes Database.empty)
  have renewing := runs_renewing.performAll operations regular
    (Timeline.start codes Database.empty) (.start codes Database.empty)
  have decodes : ∀ db ∈ moments, ∀ id ∈ db.termInLang.ids, ∃ term,
      ledger.entry .termInLang id = some term ∧ db.storedTerm? id = some term := by
    intro db hdb id hid
    have explained : ledger.Explains db := by
      rcases List.mem_cons.mp hdb with rfl | hdb
      · exact recalls.sound.primary
      · exact recalls.past db hdb
    have intact : db.Intact := by
      rcases List.mem_cons.mp hdb with rfl | hdb
      · exact alwaysIntact.1
      · exact alwaysIntact.2 db hdb
    obtain ⟨record, hrow⟩ := Table.mem_ids.mp hid
    obtain ⟨term, hterm, _⟩ := explained .termInLang _ hrow
    exact ⟨term, hterm, (Ledger.storedTerm?_eq explained intact hid).trans hterm⟩
  -- The id of a term may come back, and then it is the ledger that tells what it stands for.
  refine ⟨fun id hid hid' => ?_, fun id record other => ?_, fun id value other => ?_⟩
  · obtain ⟨term, hterm, hdecodes⟩ := decodes first hfirst id hid
    obtain ⟨other, hother, hdecodes'⟩ := decodes second hsecond id hid'
    cases Option.some.inj (hterm.symm.trans hother)
    exact ⟨term, hdecodes, hdecodes'⟩
  · have below : Level.textInLang ≠ .termInLang := nofun
    exact renewing.constant hfirst hsecond below
  · have below : Level.text ≠ .termInLang := nofun
    exact renewing.constant hfirst hsecond below

/-- A label that is gone from the primary, and that the replica still knows, is interned again. -/
def restoringHistory : List Operation := staleHistory ++ [.acquire laggingStore oneLabel]

def restoringTimeline : Timeline :=
  ((performAll restoringHistory).run (Timeline.start Table.empty Database.empty)).2

theorem restoringHistory_regular : ∀ operation ∈ restoringHistory, operation.Regular := by
  intro operation h
  rcases List.mem_append.mp h with h | h
  · exact staleHistory_regular operation h
  · rw [List.mem_singleton.mp h]
    exact .acquire _ _

/-- The term has its id back, above a text in a language that has got a new id. -/
theorem ids_keep_meaning_restored :
    ∃ before ∈ restoringTimeline.past, ∃ after ∈ restoringTimeline.past,
      before.termInLang.rows = [(1, ⟨1, 1⟩)] ∧ after.termInLang.rows = [(1, ⟨2, 1⟩)] ∧
      ∃ term, before.storedTerm? 1 = some term ∧ after.storedTerm? 1 = some term := by
  have hbefore := List.get_mem restoringTimeline.past ⟨2, by decide +kernel⟩
  have hafter := List.get_mem restoringTimeline.past ⟨0, by decide +kernel⟩
  refine ⟨_, hbefore, _, hafter, by decide +kernel, by decide +kernel, ?_⟩
  exact (ids_keep_meaning restoringHistory_regular Table.empty _ (List.mem_cons_of_mem _ hbefore) _
    (List.mem_cons_of_mem _ hafter)).1 1 (by decide +kernel) (by decide +kernel)

end Termbase
