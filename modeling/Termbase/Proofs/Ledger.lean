import Mathlib.Logic.Function.Basic
import Termbase.Proofs.Integrity
import Termbase.Store.Resolve

namespace Termbase

/-- A text in a language. -/
structure Phrase where
  language : String
  text : String
  deriving DecidableEq

/-- What an id of a level stands for, with no ids in it. -/
abbrev Level.Meaning : Level → Type
  | .text => String
  | .textInLang => Phrase
  | .termInLang => StoredTerm

/-- What each id that was ever given out stands for. -/
structure Ledger where
  entry : (level : Level) → RowId → Option level.Meaning

namespace Ledger

/-- What is in a ledger stays in it. -/
instance : LE Ledger := ⟨fun ledger later =>
  ∀ level id meaning, ledger.entry level id = some meaning → later.entry level id = some meaning⟩

theorem le_refl (ledger : Ledger) : ledger ≤ ledger := fun _ _ _ h => h

theorem le_trans {a b c : Ledger} (hab : a ≤ b) (hbc : b ≤ c) : a ≤ c :=
  fun level id meaning h => hbc level id meaning (hab level id meaning h)

def empty : Ledger := ⟨fun _ _ => none⟩

/-- What a record stands for. -/
def read (ledger : Ledger) : (level : Level) → level.Record → Option level.Meaning
  | .text, value => some value
  | .textInLang, record =>
    (ledger.entry .text record.textId).map fun text => ⟨record.language, text⟩
  | .termInLang, record =>
    (ledger.entry .textInLang record.textInLangId).map fun phrase =>
      ⟨record.typeCode, phrase.language, phrase.text⟩

theorem read_mono {ledger later : Ledger} (h : ledger ≤ later) {level : Level}
    {record : level.Record} {meaning : level.Meaning}
    (hread : ledger.read level record = some meaning) :
    later.read level record = some meaning := by
  cases level with
  | text => exact hread
  | textInLang =>
    obtain ⟨text, htext, he⟩ := Option.map_eq_some_iff.mp hread
    exact Option.map_eq_some_iff.mpr ⟨text, h _ _ _ htext, he⟩
  | termInLang =>
    obtain ⟨phrase, hphrase, he⟩ := Option.map_eq_some_iff.mp hread
    exact Option.map_eq_some_iff.mpr ⟨phrase, h _ _ _ hphrase, he⟩

def note (ledger : Ledger) (level : Level) (id : RowId) (meaning : level.Meaning) : Ledger :=
  ⟨Function.update ledger.entry level
    (Function.update (ledger.entry level) id (some meaning))⟩

theorem note_self (ledger : Ledger) (level : Level) (id : RowId) (meaning : level.Meaning) :
    (ledger.note level id meaning).entry level id = some meaning := by
  simp [note]

theorem note_of_ne (ledger : Ledger) {level other : Level} (h : other ≠ level) (id : RowId)
    (meaning : level.Meaning) :
    (ledger.note level id meaning).entry other = ledger.entry other := by
  simp [note, Function.update_of_ne h]

theorem note_other {ledger : Ledger} {level : Level} {id other : RowId} (h : other ≠ id)
    (meaning : level.Meaning) :
    (ledger.note level id meaning).entry level other = ledger.entry level other := by
  simp [note, Function.update_of_ne h]

theorem le_note {ledger : Ledger} {level : Level} {id : RowId}
    (fresh : ledger.entry level id = none) (meaning : level.Meaning) :
    ledger ≤ ledger.note level id meaning := by
  intro other some_id found h
  by_cases same : other = level
  · subst same
    have hne : some_id ≠ id := by
      rintro rfl
      rw [fresh] at h
      simp at h
    rwa [note_other hne]
  · rwa [note_of_ne _ same]

/-- The id stands for what the record says. -/
def Agrees (ledger : Ledger) (level : Level) (id : RowId) (record : level.Record) : Prop :=
  ∃ meaning, ledger.entry level id = some meaning ∧ ledger.read level record = some meaning

theorem Agrees.mono {ledger later : Ledger} (h : ledger ≤ later) {level : Level} {id : RowId}
    {record : level.Record} (agrees : ledger.Agrees level id record) :
    later.Agrees level id record := by
  obtain ⟨meaning, hentry, hread⟩ := agrees
  exact ⟨meaning, h _ _ _ hentry, read_mono h hread⟩

/-- Every row of the table holds what its id stands for. -/
def Covers (ledger : Ledger) (level : Level) (table : Table level.Record) : Prop :=
  ∀ row ∈ table.rows, ledger.Agrees level row.1 row.2

theorem Covers.mono {ledger later : Ledger} (h : ledger ≤ later) {level : Level}
    {table : Table level.Record} (covered : ledger.Covers level table) :
    later.Covers level table :=
  fun row hrow => (covered row hrow).mono h

/-- No id beyond the last one has been given out. -/
def Bounded (ledger : Ledger) (level : Level) (table : Table level.Record) : Prop :=
  ∀ id meaning, ledger.entry level id = some meaning → id ≤ table.lastId

/-- A new id is written into the ledger, and an old one is only used for what it stands for. -/
theorem covers_insert {ledger : Ledger} {level : Level} {table larger : Table level.Record}
    {record : level.Record} {id? : Option RowId} (h : table.insert record id? = some larger)
    (covered : ledger.Covers level table) (bounded : ledger.Bounded level table)
    (readable : ∃ meaning, ledger.read level record = some meaning)
    (fits : ∀ id, id? = some id → ledger.Agrees level id record) :
    ∃ later, ledger ≤ later ∧ later.Covers level larger ∧ later.Bounded level larger ∧
      ∀ other, other ≠ level → later.entry other = ledger.entry other := by
  obtain ⟨hle, ⟨_, hrows⟩ | ⟨_, id, hid, hrows, horigin⟩⟩ := Table.insert_cases h
  · refine ⟨ledger, le_refl ledger, ?_, ?_, fun _ _ => rfl⟩
    · intro row hrow
      rw [hrows] at hrow
      exact covered row hrow
    · exact fun id meaning hentry => Int64.le_trans (bounded id meaning hentry) hle
  · obtain ⟨meaning, hread⟩ := readable
    rcases horigin with hforced | hfresh
    · refine ⟨ledger, le_refl ledger, ?_, ?_, fun _ _ => rfl⟩
      · intro row hrow
        rw [hrows, List.mem_append, List.mem_singleton] at hrow
        rcases hrow with hrow | rfl
        · exact covered row hrow
        · exact fits id hforced
      · exact fun id meaning hentry => Int64.le_trans (bounded id meaning hentry) hle
    · have fresh : ledger.entry level id = none := by
        refine Option.eq_none_iff_forall_ne_some.mpr fun found hentry => ?_
        exact Int64.lt_irrefl (Int64.lt_of_lt_of_le hfresh (bounded id found hentry))
      have hgrown := le_note fresh meaning
      refine ⟨ledger.note level id meaning, hgrown, ?_, ?_, fun _ hne => note_of_ne _ hne _ _⟩
      · intro row hrow
        rw [hrows, List.mem_append, List.mem_singleton] at hrow
        rcases hrow with hrow | rfl
        · exact (covered row hrow).mono hgrown
        · exact ⟨meaning, note_self _ _ _ _, read_mono hgrown hread⟩
      · intro other found hentry
        by_cases same : other = id
        · rwa [same]
        · rw [note_other same] at hentry
          exact Int64.le_trans (bounded other found hentry) hle

theorem covers_insertAll {ledger : Ledger} {level : Level} {table larger : Table level.Record}
    {rows : List (level.Record × Option RowId)} (h : table.insertAll rows = some larger)
    (covered : ledger.Covers level table) (bounded : ledger.Bounded level table)
    (readable : ∀ row ∈ rows, ∃ meaning, ledger.read level row.1 = some meaning)
    (fits : ∀ row ∈ rows, ∀ id, row.2 = some id → ledger.Agrees level id row.1) :
    ∃ later, ledger ≤ later ∧ later.Covers level larger ∧ later.Bounded level larger ∧
      ∀ other, other ≠ level → later.entry other = ledger.entry other := by
  induction rows generalizing table ledger with
  | nil =>
    cases Option.some.inj h
    exact ⟨ledger, le_refl ledger, covered, bounded, fun _ _ => rfl⟩
  | cons row rows ih =>
    obtain ⟨between, hinsert, hrest⟩ := Table.insertAll_cons h
    obtain ⟨middle, hle, hcovers, hbounded, hother⟩ := covers_insert hinsert covered bounded
      (readable row List.mem_cons_self) (fits row List.mem_cons_self)
    have readable' : ∀ row ∈ rows, ∃ meaning, middle.read level row.1 = some meaning := by
      intro row hrow
      obtain ⟨meaning, hread⟩ := readable row (List.mem_cons_of_mem _ hrow)
      exact ⟨meaning, read_mono hle hread⟩
    obtain ⟨later, hle', hcovers', hbounded', hother'⟩ := ih hrest hcovers hbounded readable'
      fun row hrow id hid => (fits row (List.mem_cons_of_mem _ hrow) id hid).mono hle
    exact ⟨later, le_trans hle hle', hcovers', hbounded',
      fun other hne => (hother' other hne).trans (hother other hne)⟩

/-- Every row of every level holds what its id stands for. -/
def Explains (ledger : Ledger) (db : Database) : Prop :=
  ∀ level, ledger.Covers level (db.table level)

theorem Explains.mono {ledger later : Ledger} (h : ledger ≤ later) {db : Database}
    (explained : ledger.Explains db) : later.Explains db :=
  fun level => (explained level).mono h

/-- The ledger accounts for all that the primary and its replica hold. -/
structure Sound (ledger : Ledger) (storage : Storage) : Prop where
  primary : ledger.Explains storage.primary
  replica : ledger.Explains storage.replica
  bounded : ∀ level, ledger.Bounded level (storage.primary.table level)
  intact : storage.primary.Intact

theorem Sound.database {ledger : Ledger} {storage : Storage} (sound : ledger.Sound storage)
    (source : Source) : ledger.Explains (storage.database source) := by
  cases source with
  | primary => exact sound.primary
  | replica => exact sound.replica

theorem read_of_parent {ledger : Ledger} {db : Database} (explained : ledger.Explains db)
    {level : Level} {record : level.Record}
    (h : ∀ parent, level.parent? record = some parent → parent.2 ∈ (db.table parent.1).ids) :
    ∃ meaning, ledger.read level record = some meaning := by
  cases level with
  | text => exact ⟨record, rfl⟩
  | textInLang =>
    obtain ⟨value, hrow⟩ := Table.mem_ids.mp (h (.text, record.textId) rfl)
    obtain ⟨text, hentry, _⟩ := explained .text _ hrow
    exact ⟨_, Option.map_eq_some_iff.mpr ⟨text, hentry, rfl⟩⟩
  | termInLang =>
    obtain ⟨below, hrow⟩ := Table.mem_ids.mp (h (.textInLang, record.textInLangId) rfl)
    obtain ⟨phrase, hentry, _⟩ := explained .textInLang _ hrow
    exact ⟨_, Option.map_eq_some_iff.mpr ⟨phrase, hentry, rfl⟩⟩

theorem Sound.insertRecords {ledger : Ledger} {storage : Storage} (sound : ledger.Sound storage)
    {batch : BatchSize} {level : Level} {rows : List (level.Record × Option RowId)}
    {primary : Database}
    (h : storage.primary.insertRecords batch level rows = .ok ((), primary))
    (fits : ∀ row ∈ rows, ∀ id, row.2 = some id → ledger.Agrees level id row.1) :
    ∃ later, ledger ≤ later ∧ later.Sound { storage with primary := primary } := by
  have intact := sound.intact.insertRecords h
  obtain ⟨hparents, table, htable, rfl⟩ := Database.insertRecords_ok h
  obtain ⟨later, hle, hcovers, hbounded, hother⟩ := covers_insertAll htable
    (sound.primary level) (sound.bounded level)
    (fun row hrow => read_of_parent sound.primary (hparents row hrow)) fits
  refine ⟨later, hle, ⟨fun other => ?_, sound.replica.mono hle, fun other => ?_, intact⟩⟩
  · by_cases same : other = level
    · subst same
      rwa [Database.table_withTable]
    · rw [Database.table_withTable_of_ne same]
      exact (sound.primary other).mono hle
  · by_cases same : other = level
    · subst same
      rwa [Database.table_withTable]
    · rw [Database.table_withTable_of_ne same]
      intro id meaning hentry
      rw [hother other same] at hentry
      exact sound.bounded other id meaning hentry

end Ledger

end Termbase
