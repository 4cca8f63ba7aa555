import Termbase.Proofs.Acquisition
import Termbase.Proofs.Coding
import Termbase.Proofs.Refining

namespace Termbase

/-- A call of a store that changes what is stored. -/
inductive StoreCommand where
  | acquire (terms : TermSet)
  | clean (ids : List RowId)
  | storeTerms (entity : EntityId) (terms : TermSet)
  | deleteTerms (entity : EntityId)

namespace StoreCommand

def issue (store : Store) : StoreCommand → Action Storage Unit
  | .acquire terms => do let _ ← store.acquire terms
  | .clean ids => do let _ ← Termbase.clean store.batch ids
  | .storeTerms entity terms => do let _ ← store.storeTerms entity terms
  | .deleteTerms entity => do let _ ← store.deleteTerms entity

/-- What a command does to an abstract store, given what ids denote. -/
def apply (denoted : List RowId → Set Fact) (state : TermStore) : StoreCommand → TermStore
  | .acquire terms => state.acquire { fact | fact ∈ terms.facts }
  | .clean ids => state.clean (denoted ids)
  | .storeTerms entity terms => state.store entity { fact | fact ∈ terms.facts }
  | .deleteTerms entity => state.store entity ∅

end StoreCommand

namespace Database

/-- The id decodes to the fact. -/
def Denotes (db : Database) (codes : TypeCodes) (id : RowId) (fact : Fact) : Prop :=
  ∃ code, codes.get? fact.type = some code ∧
    db.storedTerm? id = some ⟨code, fact.language, fact.text⟩

/-- The facts that those of some ids which are there decode to. -/
def denoted (db : Database) (codes : TypeCodes) (ids : List RowId) : Set Fact :=
  { fact | ∃ id ∈ ids, db.Denotes codes id fact }

end Database

/-- Opens a store that reads the replica and one that reads the primary. -/
def openStores (lagging direct : BatchSize) : Action Storage (Store × Store) := do
  return (← Store.connect .replica lagging, ← Store.connect .primary direct)

/-- The runs of two stores over a storage with nothing in it but type codes, in which no command
fails, beside the runs of an abstract store. -/
inductive StoreRun (lagging direct : Store) : Storage → TermStore → Prop
  | start {codes batch other storage} :
      (openStores batch other).run ⟨{ Database.empty with typeCodes := codes }, Database.empty⟩ =
        (.ok (lagging, direct), storage) → StoreRun lagging direct storage TermStore.empty
  | command {storage state after store} (command : StoreCommand) :
      StoreRun lagging direct storage state → store = lagging ∨ store = direct →
      (command.issue store).run storage = (.ok (), after) →
      StoreRun lagging direct after (command.apply (storage.primary.denoted lagging.codes) state)
  | sync {storage state} (parts : List Part) :
      StoreRun lagging direct storage state → StoreRun lagging direct (storage.sync parts) state

/-- The terms decode one-to-one to the stored facts, the links of each entity to the facts that it
holds, and the lower levels hold what the stored facts need and nothing else. -/
structure Represents (codes : TypeCodes) (db : Database) (state : TermStore) : Prop where
  decoded : ∀ id ∈ db.termInLang.ids, ∃ fact ∈ state.terms,
    ∀ other, db.Denotes codes id other ↔ other = fact
  stored : ∀ fact ∈ state.terms, ∃! id, db.Denotes codes id fact
  linked : ∀ entity, ∀ id ∈ (db.links entity.kind).idsOf entity.number,
    ∃ fact ∈ state.links entity, db.Denotes codes id fact
  held : ∀ entity, ∀ fact ∈ state.links entity,
    ∃ id ∈ (db.links entity.kind).idsOf entity.number, db.Denotes codes id fact
  texts : ∀ text, text ∈ db.text.records ↔ ∃ fact ∈ state.terms, fact.text = text
  phrases : ∀ language text,
    (∃ id, (id, text) ∈ db.text.rows ∧ (⟨id, language⟩ : TextInLang) ∈ db.textInLang.records) ↔
      ∃ fact ∈ state.terms, fact.language = language ∧ fact.text = text
  based : ∀ row ∈ db.textInLang.rows, row.2.textId ∈ db.text.ids

section Tracked

variable {ledger : Ledger} {storage after : Storage} {codes : TypeCodes} {state : TermStore}

theorem Ledger.Sound.denotes_iff (sound : ledger.Sound storage) {id : RowId} {fact : Fact} :
    storage.primary.Denotes codes id fact ↔
      id ∈ storage.primary.termInLang.ids ∧ ledger.Knows codes fact .termInLang id := by
  constructor
  · rintro ⟨code, hcode, hstored⟩
    have hid : id ∈ storage.primary.termInLang.ids := by
      by_contra habsent
      rw [Database.storedTerm?_eq_none habsent] at hstored
      simp at hstored
    rw [storedTerm?_eq sound.primary sound.intact hid] at hstored
    exact ⟨hid, _, hstored, hcode, rfl, rfl⟩
  · rintro ⟨hid, term, hentry, hcode, hlanguage, htext⟩
    refine ⟨term.code, hcode, ?_⟩
    rw [storedTerm?_eq sound.primary sound.intact hid, hentry, ← hlanguage, ← htext]

theorem Ledger.Sound.denoted_eq (sound : ledger.Sound storage) (ids : List RowId) :
    storage.primary.denoted codes ids = Tracks.factsOf ledger codes storage.primary ids := by
  refine Set.ext fun fact => ?_
  constructor
  · rintro ⟨id, hid, denotes⟩
    obtain ⟨hthere, known⟩ := sound.denotes_iff.mp denotes
    exact ⟨id, hid, hthere, known⟩
  · rintro ⟨id, hid, hthere, known⟩
    exact ⟨id, hid, sound.denotes_iff.mpr ⟨hthere, known⟩⟩

theorem issue_tracked (sound : ledger.Sound storage) {store : Store}
    (tracks : ledger.Tracks store.codes storage.primary state) (distinct : store.codes.Distinct)
    {command : StoreCommand} (run : (command.issue store).run storage = (.ok (), after)) :
    ∃ later : Ledger, later.Sound after ∧ later.Tracks store.codes after.primary
      (command.apply (storage.primary.denoted store.codes) state) := by
  cases command with
  | acquire terms =>
    obtain ⟨_, last, hrun, hlast⟩ := Action.bind_ok run
    cases (Prod.mk.inj hlast).2
    exact tracks.acquires sound distinct hrun
  | clean ids =>
    obtain ⟨_, last, hrun, hlast⟩ := Action.bind_ok run
    cases (Prod.mk.inj hlast).2
    have cleaned := tracks.cleaned sound hrun
    rw [← sound.denoted_eq] at cleaned
    exact ⟨ledger, cleaned⟩
  | storeTerms entity terms =>
    obtain ⟨_, last, hrun, hlast⟩ := Action.bind_ok run
    cases (Prod.mk.inj hlast).2
    exact tracks.storesTerms sound distinct hrun
  | deleteTerms entity =>
    obtain ⟨_, last, hrun, hlast⟩ := Action.bind_ok run
    cases (Prod.mk.inj hlast).2
    exact ⟨ledger, tracks.deletesTerms sound distinct hrun⟩

/-- Both stores get the same codes, different for different types, and nothing else changes. -/
theorem openStores_ok {batch other : BatchSize} {lagging direct : Store}
    (h : (openStores batch other).run storage = (.ok (lagging, direct), after)) :
    lagging.codes.Distinct ∧ direct.codes = lagging.codes ∧
      ∃ table, after = { storage with primary := { storage.primary with typeCodes := table } } := by
  unfold openStores at h
  obtain ⟨first, between, hfirst, h⟩ := Action.bind_ok h
  obtain ⟨second, last, hsecond, h⟩ := Action.bind_ok h
  obtain ⟨hstores, hlast⟩ := Prod.mk.inj h
  cases hlast
  cases Except.ok.inj hstores
  obtain ⟨hlagging, codes, hbetween, named, _⟩ := connect_ok hfirst
  obtain ⟨hdirect, table, hafter, _, unchanged⟩ := connect_ok hsecond
  subst hbetween
  subst hafter
  refine ⟨hlagging ▸ Database.knownCodes_distinct _, ?_, table, rfl⟩
  rw [hlagging, hdirect]
  exact Database.knownCodes_congr (unchanged named)

theorem Ledger.tracks_empty (ledger : Ledger) (codes : TypeCodes) {db : Database}
    (rows : ∀ level, (db.table level).rows = []) (links : ∀ kind, (db.links kind).pairs = []) :
    ledger.Tracks codes db TermStore.empty := by
  refine ⟨fun level id hid => ?_, fun fact hfact => absurd hfact (Set.notMem_empty fact),
    fun kind pair hpair => ?_, fun entity fact => ?_⟩
  · unfold Table.ids at hid
    rw [rows] at hid
    simp at hid
  · rw [links] at hpair
    simp at hpair
  · rw [links]
    constructor
    · exact fun hfact => absurd hfact (Set.notMem_empty fact)
    · rintro ⟨id, hpair, _⟩
      simp at hpair

/-- Along a run, a ledger accounts for the storage, and the primary keeps step with the abstract
store. -/
theorem run_tracked {lagging direct : Store} (run : StoreRun lagging direct storage state) :
    lagging.codes.Distinct ∧ direct.codes = lagging.codes ∧
      ∃ ledger : Ledger, ledger.Sound storage ∧
        ledger.Tracks lagging.codes storage.primary state := by
  -- The ledger is no part of what runs: each step extends the one of the step before.
  induction run with
  | @start codes batch other storage hopen =>
    obtain ⟨distinct, same, table, rfl⟩ := openStores_ok hopen
    have sound : Ledger.empty.Sound
        ⟨{ Database.empty with typeCodes := table }, Database.empty⟩ :=
      (Ledger.Recalls.start table).sound
    exact ⟨distinct, same, Ledger.empty, sound, Ledger.tracks_empty _ _
      (fun level => by cases level <;> rfl) fun kind => by cases kind <;> rfl⟩
  | @command storage state after store command _ issuer hrun ih =>
    obtain ⟨distinct, same, ledger, sound, tracks⟩ := ih
    have hcodes : store.codes = lagging.codes := by
      rcases issuer with rfl | rfl
      · rfl
      · exact same
    rw [← hcodes] at tracks distinct ⊢
    exact ⟨distinct, hcodes ▸ same, issue_tracked sound tracks distinct hrun⟩
  | @sync storage state parts _ ih =>
    obtain ⟨distinct, same, ledger, sound, tracks⟩ := ih
    exact ⟨distinct, same, ledger,
      ⟨sound.primary, sound.sync parts, sound.bounded, sound.intact⟩, tracks⟩

theorem Ledger.Tracks.rows_of_fact (sound : ledger.Sound storage)
    (tracks : ledger.Tracks codes storage.primary state) {fact : Fact}
    (hfact : fact ∈ state.terms) :
    ∃ id, (id, fact.text) ∈ storage.primary.text.rows ∧
      (⟨id, fact.language⟩ : TextInLang) ∈ storage.primary.textInLang.records := by
  obtain ⟨termId, hterm, known⟩ := tracks.present fact hfact
  obtain ⟨term, hrow⟩ := Table.mem_ids.mp hterm
  obtain ⟨below, hbelow⟩ := Table.mem_ids.mp (sound.intact.termInLang _ hrow)
  obtain ⟨text, htext⟩ := Table.mem_ids.mp (sound.intact.textInLang _ hbelow)
  have knownBelow := sound.primary.knows_textInLang hrow known
  have knownText := sound.primary.knows_text hbelow knownBelow
  refine ⟨below.textId, ?_, ?_⟩
  · rw [sound.primary.text_eq htext knownText]
    exact htext
  · rw [sound.primary.language_eq hbelow knownBelow]
    exact Table.mem_records.mpr ⟨_, hbelow⟩

theorem Ledger.Tracks.represents (sound : ledger.Sound storage)
    (tracks : ledger.Tracks codes storage.primary state) (distinct : codes.Distinct) :
    Represents codes storage.primary state where
  decoded := by
    intro id hid
    obtain ⟨fact, hfact, known⟩ := tracks.needed .termInLang id hid
    refine ⟨fact, hfact, fun other => ?_⟩
    rw [sound.denotes_iff]
    constructor
    · exact fun hother => hother.2.fact_unique distinct known
    · rintro rfl
      exact ⟨hid, known⟩
  stored := by
    intro fact hfact
    obtain ⟨id, hid, known⟩ := tracks.present fact hfact
    refine ⟨id, sound.denotes_iff.mpr ⟨hid, known⟩, fun other hother => ?_⟩
    obtain ⟨hthere, knownOther⟩ := sound.denotes_iff.mp hother
    exact sound.id_unique knownOther known hthere hid
  linked := by
    intro entity id hid
    have hpair := Links.mem_idsOf.mp hid
    have hthere := tracks.linked _ _ hpair
    obtain ⟨fact, _, known⟩ := tracks.needed .termInLang id hthere
    exact ⟨fact, (tracks.links entity fact).mpr ⟨id, hpair, known⟩,
      sound.denotes_iff.mpr ⟨hthere, known⟩⟩
  held := by
    intro entity fact hfact
    obtain ⟨id, hpair, known⟩ := (tracks.links entity fact).mp hfact
    exact ⟨id, Links.mem_idsOf.mpr hpair,
      sound.denotes_iff.mpr ⟨tracks.linked _ _ hpair, known⟩⟩
  texts := by
    intro text
    constructor
    · intro htext
      obtain ⟨id, hrow⟩ := Table.mem_records.mp htext
      obtain ⟨fact, hfact, known⟩ := tracks.needed .text id (Table.mem_ids.mpr ⟨text, hrow⟩)
      exact ⟨fact, hfact, sound.primary.text_eq hrow known⟩
    · rintro ⟨fact, hfact, rfl⟩
      obtain ⟨id, hrow, _⟩ := tracks.rows_of_fact sound hfact
      exact Table.mem_records.mpr ⟨id, hrow⟩
  phrases := by
    intro language text
    constructor
    · rintro ⟨id, htext, hrecord⟩
      obtain ⟨phraseId, hrow⟩ := Table.mem_records.mp hrecord
      obtain ⟨fact, hfact, known⟩ :=
        tracks.needed .textInLang phraseId (Table.mem_ids.mpr ⟨_, hrow⟩)
      have knownText := sound.primary.knows_text hrow known
      exact ⟨fact, hfact, sound.primary.language_eq hrow known,
        sound.primary.text_eq htext knownText⟩
    · rintro ⟨fact, hfact, rfl, rfl⟩
      exact tracks.rows_of_fact sound hfact
  based := sound.intact.textInLang

end Tracked

/-- The stores refine the abstract one: after every step of a run, whichever store a command went
through and however far the replica lagged, the primary represents the abstract state. -/
theorem run_represents {lagging direct : Store} {storage : Storage} {state : TermStore}
    (run : StoreRun lagging direct storage state) :
    Represents lagging.codes storage.primary state := by
  obtain ⟨distinct, _, ledger, sound, tracks⟩ := run_tracked run
  exact tracks.represents sound distinct

def directStore : Store := { laggingStore with source := .primary }

def opened : Except Failure (Store × Store) × Storage :=
  (openStores laggingStore.batch directStore.batch).run
    ⟨{ Database.empty with typeCodes := Table.empty }, Database.empty⟩

/-- An item gets the label, -/
def labelled : Except Failure Unit × Storage :=
  ((StoreCommand.storeTerms ⟨.item, 1⟩ oneLabel).issue laggingStore).run opened.2

/-- loses it again, after the replica has caught up, -/
def unlabelled : Except Failure Unit × Storage :=
  ((StoreCommand.deleteTerms ⟨.item, 1⟩).issue directStore).run (labelled.2.sync Part.all)

/-- and the label is interned once more, with a replica that still has it. -/
def relabelled : Except Failure Unit × Storage :=
  ((StoreCommand.acquire oneLabel).issue laggingStore).run unlabelled.2

theorem relabelled_run : ∃ state, (⟨.label, "en", "cat"⟩ : Fact) ∈ state.terms ∧
    StoreRun laggingStore directStore relabelled.2 state := by
  have start : StoreRun laggingStore directStore opened.2 TermStore.empty :=
    .start (Prod.ext rfl rfl : opened = _)
  have first := start.command (.storeTerms ⟨.item, 1⟩ oneLabel) (Or.inl rfl)
    (Prod.ext (by decide +kernel) rfl : labelled = (.ok (), labelled.2))
  have second := (first.sync Part.all).command (.deleteTerms ⟨.item, 1⟩) (Or.inr rfl)
    (Prod.ext (by decide +kernel) rfl : unlabelled = (.ok (), unlabelled.2))
  have third := second.command (.acquire oneLabel) (Or.inl rfl)
    (Prod.ext (by decide +kernel) rfl : relabelled = (.ok (), relabelled.2))
  have hfact : (⟨.label, "en", "cat"⟩ : Fact) ∈ oneLabel.facts := by decide +kernel
  refine ⟨_, ?_, third⟩
  exact Or.inr hfact

theorem run_represents_relabelled :
    ∃! id, relabelled.2.primary.Denotes laggingStore.codes id ⟨.label, "en", "cat"⟩ := by
  obtain ⟨state, hfact, run⟩ := relabelled_run
  exact (run_represents run).stored _ hfact

end Termbase
