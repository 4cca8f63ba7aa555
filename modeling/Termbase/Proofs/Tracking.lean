import Mathlib.Data.Set.Basic
import Termbase.Proofs.Reconciling

namespace Termbase

/-- Which facts are stored, and which of them each entity holds. -/
structure TermStore where
  terms : Set Fact
  links : EntityId → Set Fact

namespace TermStore

def empty : TermStore := ⟨∅, fun _ => ∅⟩

/-- Nobody holds the fact. -/
def Unheld (state : TermStore) (fact : Fact) : Prop := ∀ entity, fact ∉ state.links entity

def acquire (state : TermStore) (facts : Set Fact) : TermStore :=
  { state with terms := state.terms ∪ facts }

/-- Takes those of some facts away that nobody holds. -/
def clean (state : TermStore) (facts : Set Fact) : TermStore :=
  { state with terms := { fact ∈ state.terms | ¬(fact ∈ facts ∧ state.Unheld fact) } }

/-- Makes an entity hold just these facts. -/
def hold (state : TermStore) (entity : EntityId) (facts : Set Fact) : TermStore :=
  { state with links := Function.update state.links entity facts }

/-- Makes an entity hold just these facts and takes those away that nobody holds any more. -/
def store (state : TermStore) (entity : EntityId) (facts : Set Fact) : TermStore :=
  ((state.hold entity facts).acquire facts).clean (state.links entity)

end TermStore

namespace Ledger

/-- The database holds just what the facts of an abstract store need. -/
structure Tracks (ledger : Ledger) (codes : TypeCodes) (db : Database) (state : TermStore) :
    Prop where
  needed : ∀ level, ∀ id ∈ (db.table level).ids, ∃ fact ∈ state.terms,
    ledger.Knows codes fact level id
  present : ∀ fact ∈ state.terms, ∃ id ∈ db.termInLang.ids, ledger.Knows codes fact .termInLang id
  linked : ∀ kind, ∀ pair ∈ (db.links kind).pairs, pair.2 ∈ db.termInLang.ids
  links : ∀ entity fact, fact ∈ state.links entity ↔
    ∃ id, (entity.number, id) ∈ (db.links entity.kind).pairs ∧
      ledger.Knows codes fact .termInLang id

variable {ledger later : Ledger} {codes : TypeCodes} {db larger : Database} {state : TermStore}
  {storage : Storage} {fact : Fact}

theorem Knows.fact_unique (distinct : codes.Distinct) {other : Fact} {id : RowId}
    (h : ledger.Knows codes fact .termInLang id) (h' : ledger.Knows codes other .termInLang id) :
    fact = other := by
  obtain ⟨term, hentry, hat⟩ := h
  obtain ⟨term', hentry', hat'⟩ := h'
  cases Option.some.inj (hentry.symm.trans hentry')
  exact hat.fact_unique distinct hat'

/-- What an id that is there stands for was known before. -/
theorem Explains.knows_before (explained : ledger.Explains db) (hle : ledger ≤ later)
    {level : Level} {id : RowId} (hid : id ∈ (db.table level).ids)
    (known : later.Knows codes fact level id) : ledger.Knows codes fact level id := by
  obtain ⟨record, hrow⟩ := Table.mem_ids.mp hid
  obtain ⟨meaning, hentry, _⟩ := explained level _ hrow
  obtain ⟨found, hfound, hat⟩ := known
  cases Option.some.inj (hfound.symm.trans (hle _ _ _ hentry))
  exact ⟨meaning, hentry, hat⟩

theorem Explains.text_eq (explained : ledger.Explains db) {row : RowId × String}
    (hrow : row ∈ db.text.rows) (known : ledger.Knows codes fact .text row.1) :
    fact.text = row.2 := by
  obtain ⟨text, hentry, hat⟩ := known
  obtain ⟨_, hentry', hread⟩ := explained .text _ hrow
  cases Option.some.inj hread
  cases Option.some.inj (hentry.symm.trans hentry')
  exact hat.symm

theorem Explains.language_eq (explained : ledger.Explains db) {row : RowId × TextInLang}
    (hrow : row ∈ db.textInLang.rows) (known : ledger.Knows codes fact .textInLang row.1) :
    fact.language = row.2.language := by
  obtain ⟨phrase, hentry, hat⟩ := known
  obtain ⟨_, hentry', hread⟩ := explained .textInLang _ hrow
  cases Option.some.inj (hentry.symm.trans hentry')
  obtain ⟨_, _, rfl⟩ := Option.map_eq_some_iff.mp hread
  exact (congrArg Phrase.language hat).symm

/-- What a row stands for, the row that it points at does too. -/
theorem Explains.knows_textInLang (explained : ledger.Explains db) {row : RowId × TermInLang}
    (hrow : row ∈ db.termInLang.rows) (known : ledger.Knows codes fact .termInLang row.1) :
    ledger.Knows codes fact .textInLang row.2.textInLangId := by
  obtain ⟨term, hentry, _, hlanguage, htext⟩ := known
  obtain ⟨_, hentry', hread⟩ := explained .termInLang _ hrow
  cases Option.some.inj (hentry.symm.trans hentry')
  obtain ⟨phrase, hphrase, rfl⟩ := Option.map_eq_some_iff.mp hread
  refine ⟨phrase, hphrase, ?_⟩
  cases phrase
  simp_all [Fact.At]

theorem Explains.knows_text (explained : ledger.Explains db) {row : RowId × TextInLang}
    (hrow : row ∈ db.textInLang.rows) (known : ledger.Knows codes fact .textInLang row.1) :
    ledger.Knows codes fact .text row.2.textId := by
  obtain ⟨phrase, hentry, hat⟩ := known
  obtain ⟨_, hentry', hread⟩ := explained .textInLang _ hrow
  cases Option.some.inj (hentry.symm.trans hentry')
  obtain ⟨text, htext, rfl⟩ := Option.map_eq_some_iff.mp hread
  exact ⟨text, htext, congrArg Phrase.text hat⟩

/-- Below a term that is there, the rows for its fact are pointed at. -/
theorem Sound.referenced (sound : ledger.Sound storage) {term : RowId}
    (hterm : term ∈ storage.primary.termInLang.ids)
    (known : ledger.Knows codes fact .termInLang term) {level : Level}
    (below : level ≠ .termInLang) {id : RowId} (hid : id ∈ (storage.primary.table level).ids)
    (knownId : ledger.Knows codes fact level id) : storage.primary.Referenced level id := by
  obtain ⟨record, hrow⟩ := Table.mem_ids.mp hterm
  have hphrase := sound.intact.termInLang _ hrow
  have knownPhrase := sound.primary.knows_textInLang hrow known
  cases level with
  | termInLang => exact absurd rfl below
  | textInLang =>
    exact Database.referenced_textInLang.mpr
      ⟨_, hrow, sound.id_unique knownPhrase knownId hphrase hid⟩
  | text =>
    obtain ⟨phrase, hphrase⟩ := Table.mem_ids.mp hphrase
    have knownText := sound.primary.knows_text hphrase knownPhrase
    have htext := sound.intact.textInLang _ hphrase
    exact Database.referenced_text.mpr
      ⟨_, hphrase, sound.id_unique knownText knownId htext hid⟩

namespace Tracks

/-- A row below the top level is there for the sake of a row above. -/
theorem referenced (sound : ledger.Sound storage)
    (tracks : ledger.Tracks codes storage.primary state) {level : Level}
    (below : level ≠ .termInLang) {id : RowId} (hid : id ∈ (storage.primary.table level).ids) :
    storage.primary.Referenced level id := by
  obtain ⟨fact, hfact, known⟩ := tracks.needed level id hid
  obtain ⟨term, hterm, knownTerm⟩ := tracks.present fact hfact
  exact sound.referenced hterm knownTerm below hid known

/-- An id is linked exactly when somebody holds its fact. -/
theorem linked_iff (sound : ledger.Sound storage)
    (tracks : ledger.Tracks codes storage.primary state) {id : RowId}
    (hid : id ∈ storage.primary.termInLang.ids) (known : ledger.Knows codes fact .termInLang id) :
    storage.primary.Linked id ↔ ¬state.Unheld fact := by
  constructor
  · rintro ⟨kind, number, hpair⟩ unheld
    exact unheld ⟨kind, number⟩ ((tracks.links ⟨kind, number⟩ fact).mpr ⟨id, hpair, known⟩)
  · intro held
    obtain ⟨entity, hentity⟩ := not_forall_not.mp held
    obtain ⟨other, hpair, knownOther⟩ := (tracks.links entity fact).mp hentity
    have hother := tracks.linked _ _ hpair
    rw [sound.id_unique known knownOther hid hother]
    exact ⟨entity.kind, entity.number, hpair⟩

/-- The facts that some ids stand for. -/
def factsOf (ledger : Ledger) (codes : TypeCodes) (db : Database) (ids : List RowId) : Set Fact :=
  { fact | ∃ id ∈ ids, id ∈ db.termInLang.ids ∧ ledger.Knows codes fact .termInLang id }

section Clean

variable {batch : BatchSize} {ids : List RowId}

theorem needed_clean_termInLang (sound : ledger.Sound storage)
    (tracks : ledger.Tracks codes storage.primary state) {id : RowId}
    (hid : id ∈ (storage.primary.clean batch ids).2.termInLang.ids) :
    ∃ fact ∈ (state.clean (factsOf ledger codes storage.primary ids)).terms,
      ledger.Knows codes fact .termInLang id := by
  obtain ⟨record, hrow⟩ := Table.mem_ids.mp hid
  obtain ⟨hrow, kept⟩ := Database.mem_clean_termInLang.mp hrow
  have hthere : id ∈ storage.primary.termInLang.ids := Table.mem_ids.mpr ⟨record, hrow⟩
  obtain ⟨fact, hfact, known⟩ := tracks.needed .termInLang id hthere
  refine ⟨fact, ⟨hfact, ?_⟩, known⟩
  rintro ⟨⟨other, hother, hpresent, knownOther⟩, unheld⟩
  have same : other = id := sound.id_unique knownOther known hpresent hthere
  subst same
  exact kept ⟨hother, fun linked => (tracks.linked_iff sound hthere known).mp linked unheld⟩

theorem needed_clean_textInLang (sound : ledger.Sound storage)
    (tracks : ledger.Tracks codes storage.primary state) {id : RowId}
    (hid : id ∈ (storage.primary.clean batch ids).2.textInLang.ids) :
    ∃ fact ∈ (state.clean (factsOf ledger codes storage.primary ids)).terms,
      ledger.Knows codes fact .textInLang id := by
  obtain ⟨record, hrow⟩ := Table.mem_ids.mp hid
  have hbefore := (Database.mem_clean_textInLang.mp hrow).1
  have below : Level.textInLang ≠ .termInLang := nofun
  have referenced := tracks.referenced sound below (Table.mem_ids.mpr ⟨record, hbefore⟩)
  -- Had all rows that point at this one gone, it would have gone with them.
  obtain ⟨other, hother, rfl⟩ := Database.referenced_textInLang.mp (referenced.clean hrow)
  obtain ⟨fact, hfact, known⟩ := tracks.needed_clean_termInLang sound
    (Table.mem_ids.mpr ⟨other.2, hother⟩)
  have hbefore := (Database.mem_clean_termInLang.mp hother).1
  exact ⟨fact, hfact, sound.primary.knows_textInLang hbefore known⟩

theorem needed_clean_text (sound : ledger.Sound storage)
    (tracks : ledger.Tracks codes storage.primary state) {id : RowId}
    (hid : id ∈ (storage.primary.clean batch ids).2.text.ids) :
    ∃ fact ∈ (state.clean (factsOf ledger codes storage.primary ids)).terms,
      ledger.Knows codes fact .text id := by
  obtain ⟨value, hrow⟩ := Table.mem_ids.mp hid
  have hbefore := (Database.mem_clean_text.mp hrow).1
  have below : Level.text ≠ .termInLang := nofun
  have referenced := tracks.referenced sound below (Table.mem_ids.mpr ⟨value, hbefore⟩)
  obtain ⟨other, hother, rfl⟩ := Database.referenced_text.mp (referenced.clean hrow)
  obtain ⟨fact, hfact, known⟩ := tracks.needed_clean_textInLang sound
    (Table.mem_ids.mpr ⟨other.2, hother⟩)
  have hbefore := (Database.mem_clean_textInLang.mp hother).1
  exact ⟨fact, hfact, sound.primary.knows_text hbefore known⟩

theorem clean (sound : ledger.Sound storage)
    (tracks : ledger.Tracks codes storage.primary state) (batch : BatchSize) (ids : List RowId) :
    ledger.Tracks codes (storage.primary.clean batch ids).2
      (state.clean (factsOf ledger codes storage.primary ids)) := by
  refine ⟨fun level id hid => ?_, fun fact hfact => ?_, fun kind pair hpair => ?_,
    fun entity fact => ?_⟩
  · cases level with
    | text => exact tracks.needed_clean_text sound hid
    | textInLang => exact tracks.needed_clean_textInLang sound hid
    | termInLang => exact tracks.needed_clean_termInLang sound hid
  · obtain ⟨hfact, kept⟩ := hfact
    obtain ⟨id, hid, known⟩ := tracks.present fact hfact
    obtain ⟨record, hrow⟩ := Table.mem_ids.mp hid
    refine ⟨id, Table.mem_ids.mpr ⟨record, Database.mem_clean_termInLang.mpr ⟨hrow, ?_⟩⟩, known⟩
    rintro ⟨hlisted, unlinked⟩
    have unheld := not_not.mp (mt (tracks.linked_iff sound hid known).mpr unlinked)
    exact kept ⟨⟨id, hlisted, hid, known⟩, unheld⟩
  · rw [Database.links_clean] at hpair
    obtain ⟨record, hrow⟩ := Table.mem_ids.mp (tracks.linked kind pair hpair)
    refine Table.mem_ids.mpr ⟨record, Database.mem_clean_termInLang.mpr ⟨hrow, ?_⟩⟩
    exact fun gone => gone.2 ⟨kind, pair.1, hpair⟩
  · rw [Database.links_clean]
    exact tracks.links entity fact

end Clean

end Tracks

/-- Rows that some facts need have been added; whatever became of the links. -/
structure Gains (ledger : Ledger) (facts : List Fact) (codes : TypeCodes) (db : Database)
    (later : Ledger) (larger : Database) : Prop where
  le : ledger ≤ later
  rows : ∀ level, ∀ row ∈ (db.table level).rows, row ∈ (larger.table level).rows
  added : ∀ level, ∀ row ∈ (larger.table level).rows,
    row ∈ (db.table level).rows ∨ ∃ fact ∈ facts, later.Knows codes fact level row.1

variable {facts : List Fact}

theorem Adds.gains {after : Storage} (h : ledger.Adds facts codes storage later after) :
    ledger.Gains facts codes storage.primary later after.primary :=
  ⟨h.le, h.grows.rows, h.added⟩

namespace Gains

theorem of_tables (hle : ledger ≤ later) (facts : List Fact) (codes : TypeCodes)
    (h : ∀ level, larger.table level = db.table level) :
    ledger.Gains facts codes db later larger := by
  refine ⟨hle, fun level row hrow => ?_, fun level row hrow => ?_⟩
  · rwa [h]
  · rw [h] at hrow
    exact Or.inl hrow

theorem trans {middle : Ledger} {between : Database}
    (first : ledger.Gains facts codes db middle between)
    (second : middle.Gains facts codes between later larger) :
    ledger.Gains facts codes db later larger := by
  refine ⟨le_trans first.le second.le,
    fun level row hrow => second.rows level row (first.rows level row hrow), ?_⟩
  intro level row hrow
  rcases second.added level row hrow with hrow | hnew
  · rcases first.added level row hrow with hrow | ⟨fact, hfact, known⟩
    · exact Or.inl hrow
    · exact Or.inr ⟨fact, hfact, known.mono second.le⟩
  · exact Or.inr hnew

theorem ids (h : ledger.Gains facts codes db later larger) {level : Level} {id : RowId}
    (hid : id ∈ (db.table level).ids) : id ∈ (larger.table level).ids := by
  obtain ⟨record, hrow⟩ := Table.mem_ids.mp hid
  exact Table.mem_ids.mpr ⟨record, h.rows level _ hrow⟩

end Gains

/-- An entity has got just the wanted links, and no other entity's links have changed. -/
def Relinks (db : Database) (entity : EntityId) (wanted : List RowId) (after : Database) : Prop :=
  ∀ other : EntityId, ∀ id, (other.number, id) ∈ (after.links other.kind).pairs ↔
    if other = entity then id ∈ wanted else (other.number, id) ∈ (db.links other.kind).pairs

namespace Tracks

theorem gained_needed (tracks : ledger.Tracks codes db state)
    (gains : ledger.Gains facts codes db later larger) (level : Level) {id : RowId}
    (hid : id ∈ (larger.table level).ids) :
    ∃ fact ∈ state.terms ∪ { fact | fact ∈ facts }, later.Knows codes fact level id := by
  obtain ⟨record, hrow⟩ := Table.mem_ids.mp hid
  rcases gains.added level _ hrow with hold | ⟨fact, hfact, known⟩
  · obtain ⟨fact, hfact, known⟩ := tracks.needed level id (Table.mem_ids.mpr ⟨record, hold⟩)
    exact ⟨fact, Or.inl hfact, known.mono gains.le⟩
  · exact ⟨fact, Or.inr hfact, known⟩

theorem gained_present (tracks : ledger.Tracks codes db state)
    (gains : ledger.Gains facts codes db later larger) {final : Fact → RowId}
    (named : ∀ fact ∈ facts, later.Knows codes fact .termInLang (final fact))
    (there : ∀ fact ∈ facts, final fact ∈ larger.termInLang.ids)
    (hfact : fact ∈ state.terms ∪ { fact | fact ∈ facts }) :
    ∃ id ∈ larger.termInLang.ids, later.Knows codes fact .termInLang id := by
  rcases hfact with hfact | hfact
  · obtain ⟨id, hid, known⟩ := tracks.present fact hfact
    have hlater : id ∈ (larger.table .termInLang).ids := gains.ids hid
    exact ⟨id, hlater, known.mono gains.le⟩
  · exact ⟨final fact, there fact hfact, named fact hfact⟩

theorem gained_links (explained : ledger.Explains db) (tracks : ledger.Tracks codes db state)
    (gains : ledger.Gains facts codes db later larger) (entity : EntityId) (fact : Fact) :
    fact ∈ state.links entity ↔ ∃ id, (entity.number, id) ∈ (db.links entity.kind).pairs ∧
      later.Knows codes fact .termInLang id := by
  rw [tracks.links]
  constructor
  · rintro ⟨id, hpair, known⟩
    exact ⟨id, hpair, known.mono gains.le⟩
  · rintro ⟨id, hpair, known⟩
    have hid : id ∈ (db.table .termInLang).ids := tracks.linked _ _ hpair
    exact ⟨id, hpair, explained.knows_before gains.le hid known⟩

theorem acquire (explained : ledger.Explains db) (tracks : ledger.Tracks codes db state)
    (gains : ledger.Gains facts codes db later larger) {final : Fact → RowId}
    (named : ∀ fact ∈ facts, later.Knows codes fact .termInLang (final fact))
    (there : ∀ fact ∈ facts, final fact ∈ larger.termInLang.ids)
    (links : ∀ kind, larger.links kind = db.links kind) :
    later.Tracks codes larger (state.acquire { fact | fact ∈ facts }) := by
  refine ⟨fun level id hid => tracks.gained_needed gains level hid,
    fun fact hfact => tracks.gained_present gains named there hfact, fun kind pair hpair => ?_,
    fun entity fact => ?_⟩
  · rw [links] at hpair
    have hid : pair.2 ∈ (db.table .termInLang).ids := tracks.linked kind pair hpair
    exact gains.ids hid
  · rw [links]
    exact tracks.gained_links explained gains entity fact

/-- An entity that links to just the ids of some facts holds just these facts. -/
theorem hold (explained : ledger.Explains db) (tracks : ledger.Tracks codes db state)
    (distinct : codes.Distinct) (gains : ledger.Gains facts codes db later larger)
    {final : Fact → RowId}
    (named : ∀ fact ∈ facts, later.Knows codes fact .termInLang (final fact))
    (there : ∀ fact ∈ facts, final fact ∈ larger.termInLang.ids) {entity : EntityId}
    {wanted : List RowId} (listed : ∀ id, id ∈ wanted ↔ ∃ fact ∈ facts, final fact = id)
    (relinks : Relinks db entity wanted larger) :
    later.Tracks codes larger
      ((state.hold entity { fact | fact ∈ facts }).acquire { fact | fact ∈ facts }) := by
  refine ⟨fun level id hid => tracks.gained_needed gains level hid,
    fun fact hfact => tracks.gained_present gains named there hfact, fun kind pair hpair => ?_,
    fun other fact => ?_⟩
  · have hcase := (relinks ⟨kind, pair.1⟩ pair.2).mp hpair
    split at hcase
    next =>
      obtain ⟨fact, hfact, hid⟩ := (listed _).mp hcase
      exact hid ▸ there fact hfact
    next =>
      have hid : pair.2 ∈ (db.table .termInLang).ids := tracks.linked kind pair hcase
      exact gains.ids hid
  · change fact ∈ Function.update state.links entity { fact | fact ∈ facts } other ↔ _
    simp only [relinks other]
    by_cases same : other = entity
    · subst same
      rw [Function.update_self]
      simp only [if_true]
      constructor
      · exact fun hfact => ⟨final fact, (listed _).mpr ⟨fact, hfact, rfl⟩, named fact hfact⟩
      · rintro ⟨id, hid, known⟩
        obtain ⟨wantedFact, hwanted, rfl⟩ := (listed _).mp hid
        rw [known.fact_unique distinct (named wantedFact hwanted)]
        exact hwanted
    · rw [Function.update_of_ne same]
      simp only [if_neg same]
      exact tracks.gained_links explained gains other fact

end Tracks

end Ledger

end Termbase
