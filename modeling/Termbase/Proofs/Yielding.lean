import Termbase.Proofs.Interning

namespace Termbase

/-- Records that are all there have as many ids. -/
theorem Database.length_idsOf {db : Database} {batch : BatchSize} {level : Level}
    {records : List level.Record} (nodup : records.Nodup)
    (present : ∀ record ∈ records, record ∈ (db.table level).records) :
    (db.idsOf batch level records).length = records.length := by
  have keys : ((db.idsOf batch level records).map Prod.fst).Nodup := firstPerKey_keys_nodup _
  have same : ∀ record,
      record ∈ (db.idsOf batch level records).map Prod.fst ↔ record ∈ records := by
    intro record
    constructor
    · intro h
      obtain ⟨id, hid⟩ := lookup_exists h
      exact (lookup_idsOf.mp hid).1
    · intro h
      obtain ⟨id, hrow⟩ := Table.mem_records.mp (present record h)
      exact key_mem_of_lookup (lookup_idsOf.mpr ⟨h, hrow⟩)
  have hlength := ((List.perm_ext_iff_of_nodup keys nodup).mpr same).length_eq
  rwa [List.length_map] at hlength

/-- Failures of the storage itself: there are no ids left, or a statement is too deep for it. -/
inductive Failure.OfStorage : Failure → Prop
  | storageFull : OfStorage .storageFull
  | statementTooDeep : OfStorage .statementTooDeep

instance (failure : Failure) : Decidable failure.OfStorage :=
  decidable_of_iff (failure = .storageFull ∨ failure = .statementTooDeep)
    ⟨fun h => h.elim (· ▸ .storageFull) (· ▸ .statementTooDeep), fun h => by cases h <;> simp⟩

def StorageFails {α : Type} : Except Failure α → Prop
  | .ok _ => False
  | .error failure => failure.OfStorage

instance {α : Type} : (outcome : Except Failure α) → Decidable (StorageFails outcome)
  | .ok _ => inferInstanceAs (Decidable False)
  | .error failure => inferInstanceAs (Decidable failure.OfStorage)

/-- How giving ids may fail: by the storage, or because a row is gone from the primary that the
source still knows. -/
inductive Failure.OfRecords (source : Source) : Failure → Prop
  | storage {failure} : failure.OfStorage → OfRecords source failure
  | missingParent {level ids} : source = .replica → OfRecords source (.missingParent level ids)

theorem Database.insertRecords_error {db : Database} {batch : BatchSize} {level : Level}
    {rows : List (level.Record × Option RowId)} {failure : Failure} {source : Source}
    (parents : source = .primary → ∀ row ∈ rows, ∀ parent, level.parent? row.1 = some parent →
      parent.2 ∈ (db.table parent.1).ids)
    (h : db.insertRecords batch level rows = .error failure) : failure.OfRecords source := by
  unfold insertRecords at h
  split at h
  next missing ids hmissing =>
    cases Except.error.inj h
    cases source with
    | replica => exact .missingParent rfl
    | primary =>
      have hnone : db.missingParents batch (rows.filterMap fun row => level.parent? row.1) =
          none := by
        refine missingParents_eq_none.mpr fun parent hparent => ?_
        obtain ⟨row, hrow, he⟩ := List.mem_filterMap.mp hparent
        exact parents rfl row hrow parent he
      simp [hmissing] at hnone
  next =>
    split at h
    next => simp at h
    next => exact Except.error.inj h ▸ .storage .storageFull

namespace Acquires

variable {batch : BatchSize} {level : Level} {records : List level.Record}
  {forced : Option (ForcedIds level)} {known : Database} {storage after : Storage}

/-- Distinct records whose parents are there get their ids unless the storage fails. -/
theorem error {failure : Failure} {source : Source}
    (h : Acquires batch level records forced known storage (.error failure) after)
    (nodup : records.Nodup)
    (parents : source = .primary → ∀ record ∈ records, ∀ parent,
      level.parent? record = some parent → parent.2 ∈ (storage.primary.table parent.1).ids) :
    failure.OfRecords source := by
  have listed : ∀ row ∈ forcedRows forced (known.unknown level records), row.1 ∈ records := by
    intro row hrow
    have hmem : row.1 ∈ (forcedRows forced (known.unknown level records)).map Prod.fst :=
      List.mem_map.mpr ⟨row, hrow, rfl⟩
    rw [forcedRows_records] at hmem
    exact (Database.mem_unknown.mp hmem).1
  cases h with
  | declined => exact .storage .statementTooDeep
  | refused hinsert =>
    exact Database.insertRecords_error
      (fun hsource row hrow => parents hsource row.1 (listed row hrow)) hinsert
  | @incomplete primary _ hinsert hless =>
    obtain ⟨_, table, htable, rfl⟩ := Database.insertRecords_ok hinsert
    have added := (Table.insertAll_extends htable).2
    have hlength := @Database.length_idsOf (storage.primary.withTable level table) batch level
      (known.unknown level records) (nodup.sublist List.filter_sublist) ?_
    · omega
    · intro record hrecord
      rw [← forcedRows_records forced (known.unknown level records)] at hrecord
      obtain ⟨row, hrow, rfl⟩ := List.mem_map.mp hrecord
      rw [Database.table_withTable]
      exact added row hrow

end Acquires

/-- The action adds rows only, something holds of what it gives, and it fails in allowed ways
only. -/
structure Action.Yields {α : Type} (action : Action Storage α) (storage : Storage)
    (allowed : Failure → Prop) (holds : α → Storage → Prop) : Prop where
  grows : storage.Grows (action.run storage).2
  fails : ∀ failure, (action.run storage).1 = .error failure → allowed failure
  gives : ∀ result, (action.run storage).1 = .ok result → holds result (action.run storage).2

namespace Action.Yields

variable {α β : Type} {storage : Storage} {allowed : Failure → Prop} {holds : α → Storage → Prop}
  {after : β → Storage → Prop}

theorem ok {action : Action Storage α} {last : Storage} {result : α}
    (h : action.Yields storage allowed holds) (run : action.run storage = (.ok result, last)) :
    storage.Grows last ∧ holds result last := by
  obtain ⟨grows, _, gives⟩ := h
  rw [run] at grows gives
  exact ⟨grows, gives result rfl⟩

theorem error {action : Action Storage α} {last : Storage} {failure : Failure}
    (h : action.Yields storage allowed holds) (run : action.run storage = (.error failure, last)) :
    storage.Grows last ∧ allowed failure := by
  obtain ⟨grows, fails, _⟩ := h
  rw [run] at grows fails
  exact ⟨grows, fails failure rfl⟩

theorem pure {result : α} (h : holds result storage) :
    (Pure.pure result : Action Storage α).Yields storage allowed holds :=
  ⟨.refl storage, nofun, fun _ he => Except.ok.inj he ▸ h⟩

theorem ofResult_bind {result : Except Failure α} {next : α → Action Storage β}
    (fails : ∀ failure, result = .error failure → allowed failure)
    (h : ∀ x, result = .ok x → (next x).Yields storage allowed after) :
    (Action.ofResult result >>= next).Yields storage allowed after := by
  cases result with
  | error failure => exact ⟨.refl storage, fun _ he => Except.error.inj he ▸ fails _ rfl, nofun⟩
  | ok x => exact h x rfl

theorem query_bind {source : Source} {view : Database → α} {next : α → Action Storage β}
    (h : (next (view (storage.database source))).Yields storage allowed after) :
    (Action.query source view >>= next).Yields storage allowed after :=
  ⟨h.grows, h.fails, h.gives⟩

theorem ok_bind {result : Except Failure α} {x : α} {next : α → Action Storage β}
    (hx : result = .ok x) (h : (next x).Yields storage allowed after) :
    (Action.ofResult result >>= next).Yields storage allowed after := by
  subst hx
  exact h

theorem bind {action : Action Storage α} {next : α → Action Storage β}
    (first : action.Yields storage allowed holds)
    (second : ∀ result between, storage.Grows between → holds result between →
      (next result).Yields between allowed after) :
    (action >>= next).Yields storage allowed after := by
  obtain ⟨grows, fails, gives⟩ := first
  rcases hrun : action.run storage with ⟨failure | result, between⟩
  · rw [hrun] at grows fails
    have hbind : (action >>= next).run storage = (.error failure, between) := by
      rw [run_bind, hrun]
    refine ⟨?_, ?_, ?_⟩
    all_goals rw [hbind]
    · exact grows
    · exact fun _ he => Except.error.inj he ▸ fails failure rfl
    · exact nofun
  · rw [hrun] at grows gives
    have rest := second result between grows (gives result rfl)
    have hbind : (action >>= next).run storage = (next result).run between := by
      rw [run_bind, hrun]
    refine ⟨?_, ?_, ?_⟩
    all_goals rw [hbind]
    · exact grows.trans _ _ _ rest.grows
    · exact rest.fails
    · exact rest.gives

theorem weaken {weaker : α → Storage → Prop} {action : Action Storage α}
    (h : action.Yields storage allowed holds)
    (weaken : ∀ result after, storage.Grows after → holds result after → weaker result after) :
    action.Yields storage allowed weaker :=
  ⟨h.grows, h.fails, fun result hresult => weaken _ _ h.grows (h.gives result hresult)⟩

theorem allow {more : Failure → Prop} {action : Action Storage α}
    (h : action.Yields storage allowed holds) (allows : ∀ failure, allowed failure → more failure) :
    action.Yields storage more holds :=
  ⟨h.grows, fun failure hfailure => allows failure (h.fails failure hfailure), h.gives⟩

theorem rescue {rest : Failure → Prop} {action : Action Storage α}
    {handler : Failure → Option (Action Storage α)} (first : action.Yields storage allowed holds)
    (unhandled : ∀ failure, allowed failure → handler failure = none → rest failure)
    (second : ∀ failure other between, storage.Grows between → handler failure = some other →
      other.Yields between rest holds) :
    (action.rescue handler).Yields storage rest holds := by
  have hrescue := run_rescue action handler storage
  obtain ⟨grows, fails, gives⟩ := first
  rcases hrun : action.run storage with ⟨failure | result, between⟩
  · rw [hrun] at grows fails hrescue
    simp only at hrescue
    cases hhandler : handler failure with
    | none =>
      rw [hhandler] at hrescue
      refine ⟨?_, ?_, ?_⟩
      all_goals rw [hrescue]
      · exact grows
      · exact fun _ he => Except.error.inj he ▸ unhandled failure (fails failure rfl) hhandler
      · exact nofun
    | some other =>
      rw [hhandler] at hrescue
      have recovered := second failure other between grows hhandler
      refine ⟨?_, ?_, ?_⟩
      all_goals rw [hrescue]
      · exact grows.trans _ _ _ recovered.grows
      · exact recovered.fails
      · exact recovered.gives
  · rw [hrun] at grows gives hrescue
    refine ⟨?_, ?_, ?_⟩
    all_goals rw [hrescue]
    · exact grows
    · exact nofun
    · exact gives

theorem within {action : Action Storage α} {related : Storage → Storage → Prop}
    (h : action.Yields storage allowed holds) (within : action.Within related) :
    action.Yields storage allowed fun result after => holds result after ∧ related storage after :=
  ⟨h.grows, h.fails, fun result hresult => ⟨h.gives result hresult, within storage⟩⟩

end Action.Yields

variable {codes : TypeCodes} {batch : BatchSize} {source : Source} {terms : TermSet}
  {storage : Storage}

theorem acquireIds_yields {level : Level} {records : List level.Record}
    {forced : Option (ForcedIds level)} (nodup : records.Nodup)
    (parents : source = .primary → ∀ record ∈ records, ∀ parent,
      level.parent? record = some parent → parent.2 ∈ (storage.primary.table parent.1).ids) :
    (acquireIds batch source level records forced).Yields storage (Failure.OfRecords source)
      fun ids after =>
        Acquires batch level records forced (storage.database source) storage (.ok ids) after := by
  rcases hrun : (acquireIds batch source level records forced).run storage with ⟨outcome, after⟩
  have acquires := acquireIds_acquires hrun
  refine ⟨acquireIds_grows batch source level records forced storage, ?_, ?_⟩
  all_goals rw [hrun]
  · rintro failure rfl
    exact acquires.error nodup parents
  · rintro ids rfl
    exact acquires

/-- The facts of the records that a level is asked for get ids, and from the primary these are the
ids of rows. -/
theorem acquireFacts_yields {level : Level} {facts : List Fact} {record : Fact → level.Record}
    {forced : Option (ForcedIds level)}
    (parents : source = .primary → ∀ fact ∈ facts, ∀ parent,
      level.parent? (record fact) = some parent →
        parent.2 ∈ (storage.primary.table parent.1).ids) :
    (acquireIds batch source level (level.distinct (facts.map record)) forced).Yields storage
      (Failure.OfRecords source) fun ids after =>
        Acquires batch level (level.distinct (facts.map record)) forced
          (storage.database source) storage (.ok ids) after ∧
        ∃ idOf : Fact → RowId, ∀ fact ∈ facts,
          ids.entries.lookup (record fact) = some (idOf fact) ∧
            (source = .primary → (idOf fact, record fact) ∈ (after.primary.table level).rows) := by
  have listed : ∀ x, x ∈ level.distinct (facts.map record) ↔ ∃ fact ∈ facts, record fact = x := by
    intro x
    rw [Level.mem_distinct, List.mem_map]
  have acquired := @acquireIds_yields batch source storage level
    (level.distinct (facts.map record)) forced (Level.distinct_nodup _ _) ?_
  · refine acquired.weaken fun ids after grows acquires => ⟨acquires, ?_⟩
    have each : ∀ fact ∈ facts, ∃ id, ids.entries.lookup (record fact) = some id ∧
        (source = .primary → (id, record fact) ∈ (after.primary.table level).rows) := by
      intro fact hfact
      have hrecord := (listed _).mpr ⟨fact, hfact, rfl⟩
      obtain ⟨id, hid⟩ := acquires.found hrecord
      refine ⟨id, hid, ?_⟩
      rintro rfl
      rcases (acquires.lookup hrecord).mp hid with h | h
      · exact grows.rows level _ h
      · exact h.2
    choose! idOf hidOf using each
    exact ⟨idOf, hidOf⟩
  · intro hsource x hx
    obtain ⟨fact, hfact, rfl⟩ := (listed x).mp hx
    exact parents hsource fact hfact

/-- The rows that are there give the fact a record. -/
def Database.Places (db : Database) (codes : TypeCodes) (fact : Fact) (record : TermInLang) :
    Prop :=
  ∃ textId, (textId, fact.text) ∈ db.text.rows ∧
    (record.textInLangId, ⟨textId, fact.language⟩) ∈ db.textInLang.rows ∧
    codes.get? fact.type = some record.typeCode

/-- No store with the codes tells the facts apart. -/
def Fact.Like (codes : TypeCodes) (fact other : Fact) : Prop :=
  codes.get? fact.type = codes.get? other.type ∧ fact.language = other.language ∧
    fact.text = other.text

theorem Database.Places.like {db : Database} {fact other : Fact} {record : TermInLang}
    (h : db.Places codes fact record) (h' : db.Places codes other record) :
    fact.Like codes other := by
  obtain ⟨id, htext, hbelow, hcode⟩ := h
  obtain ⟨id', htext', hbelow', hcode'⟩ := h'
  obtain ⟨rfl, hlanguage⟩ := TextInLang.mk.inj (Table.record_unique hbelow hbelow')
  exact ⟨hcode.trans hcode'.symm, hlanguage, Table.record_unique htext htext'⟩

theorem LowerIds.Gives.unique {lower : LowerIds} {fact other : Fact} {record next : TermInLang}
    (h : lower.Gives codes fact record) (h' : lower.Gives codes other next)
    (like : fact.Like codes other) : record = next := by
  obtain ⟨id, htext, hbelow, hcode⟩ := h
  obtain ⟨id', htext', hbelow', hcode'⟩ := h'
  obtain ⟨sameCode, sameLanguage, sameText⟩ := like
  rw [sameText, htext'] at htext
  cases Option.some.inj htext
  rw [sameLanguage, hbelow'] at hbelow
  rw [sameCode, hcode'] at hcode
  cases record
  cases next
  simp_all only [Option.some.injEq]

/-- Facts that are not told apart have the same id. -/
def TermSet.Coherent (terms : TermSet) (codes : TypeCodes) (idOf : Fact → RowId) : Prop :=
  ∀ fact ∈ terms.facts, ∀ other ∈ terms.facts, fact.Like codes other → idOf fact = idOf other

def TypeCodes.Cover (codes : TypeCodes) (terms : TermSet) : Prop :=
  ∀ type ∈ terms.types, ∃ code, codes.codeOf type = .ok code

/-- How the passes over a term set may fail. -/
inductive Failure.OfPasses (codes : TypeCodes) (source : Source) (terms : TermSet) : Failure → Prop
  | records {failure} : failure.OfRecords source → OfPasses codes source terms failure
  | missingTypeCode {type} : type ∈ terms.types → codes.get? type = none →
      OfPasses codes source terms (.missingTypeCode type)

theorem TypeCodes.Cover.ofStorage (cover : codes.Cover terms) {failure : Failure}
    (h : failure.OfPasses codes .primary terms) : failure.OfStorage := by
  cases h with
  | records h =>
    cases h with
    | storage h => exact h
    | missingParent hsource => simp at hsource
  | missingTypeCode htype hnone =>
    obtain ⟨code, hcode⟩ := cover _ htype
    simp [TypeCodes.get?_of_codeOf hcode] at hnone

/-- What the first two passes have done when they end well. -/
structure Phrasing (batch : BatchSize) (source : Source) (terms : TermSet) (storage : Storage)
    (lower : LowerIds) (after : Storage) where
  between : Storage
  textId : Fact → RowId
  phraseId : Fact → RowId
  texts : Acquires batch .text (Level.text.distinct (terms.facts.map Fact.text)) none
    (storage.database source) storage (.ok lower.texts) between
  phrases : Acquires batch .textInLang
    (Level.textInLang.distinct (terms.facts.map fun fact => ⟨textId fact, fact.language⟩)) none
    (between.database source) between (.ok lower.textsInLang) after
  text : ∀ fact ∈ terms.facts, lower.texts.entries.lookup fact.text = some (textId fact) ∧
    (source = .primary → (textId fact, fact.text) ∈ (between.primary.table .text).rows)
  phrase : ∀ fact ∈ terms.facts, lower.textsInLang.entries.lookup
      (⟨textId fact, fact.language⟩ : TextInLang) = some (phraseId fact) ∧
    (source = .primary →
      (phraseId fact, ⟨textId fact, fact.language⟩) ∈ (after.primary.table .textInLang).rows)
  first : storage.Grows between
  second : between.Grows after

theorem phrasePasses_yields :
    (phrasePasses batch source terms).Yields storage (Failure.OfRecords source)
      fun lower after => Nonempty (Phrasing batch source terms storage lower after) := by
  unfold phrasePasses
  rw [TermSet.kept_values]
  have texts := @acquireFacts_yields batch source storage .text terms.facts Fact.text none nofun
  refine texts.bind fun texts between first h => ?_
  obtain ⟨acquires, textId, htexts⟩ := h
  have records := @TermSet.occurrences_mapM terms _ (fun _ => textInLangOf texts)
    (fun fact => (⟨textId fact, fact.language⟩ : TextInLang)) fun term hterm =>
      textInLangOf_eq (htexts _ (TermSet.fact_mem_of_occurrence hterm)).1
  refine .ok_bind records ?_
  have phrases := @acquireFacts_yields batch source between .textInLang terms.facts
    (fun fact => (⟨textId fact, fact.language⟩ : TextInLang)) none ?_
  · refine phrases.bind fun phrases after second h => ?_
    obtain ⟨acquires', phraseId, hphrases⟩ := h
    exact .pure ⟨⟨between, textId, phraseId, acquires, acquires', htexts, hphrases, first, second⟩⟩
  · intro hsource fact hfact parent hparent
    cases Option.some.inj hparent
    exact Table.mem_ids.mpr ⟨_, (htexts fact hfact).2 hsource⟩

/-- With a code for its type, a fact has a record above the ids of the first two passes. -/
theorem Phrasing.places {lower : LowerIds} {after : Storage}
    (phrasing : Phrasing batch source terms storage lower after) {fact : Fact}
    (hfact : fact ∈ terms.facts) {code : RowId} (hcode : codes.get? fact.type = some code) :
    lower.Gives codes fact ⟨phrasing.phraseId fact, code⟩ ∧
      (source = .primary → after.primary.Places codes fact ⟨phrasing.phraseId fact, code⟩) := by
  obtain ⟨htext, textRow⟩ := phrasing.text fact hfact
  obtain ⟨hphrase, phraseRow⟩ := phrasing.phrase fact hfact
  refine ⟨⟨_, htext, hphrase, hcode⟩, fun hsource => ?_⟩
  exact ⟨_, phrasing.second.rows .text _ (textRow hsource), phraseRow hsource, hcode⟩

theorem codes_yields {α : Type} {allowed : Failure → Prop} {holds : α → Storage → Prop}
    {next : List RowId → Action Storage α}
    (fails : ∀ type ∈ terms.types, codes.get? type = none → allowed (.missingTypeCode type))
    (h : ∀ list, codes.Cover terms → (next list).Yields storage allowed holds) :
    (Action.ofResult (terms.types.mapM codes.codeOf) >>= next).Yields storage allowed holds := by
  refine .ofResult_bind (fun failure hfailure => ?_) fun list hlist => h list (mapM_ok_mem hlist)
  obtain ⟨type, htype, hcode⟩ := mapM_error_mem hfailure
  obtain ⟨hnone, rfl⟩ := TypeCodes.codeOf_error hcode
  exact fails type htype hnone

theorem lowerPasses_yields :
    (lowerPasses codes batch source terms).Yields storage (Failure.OfPasses codes source terms)
      fun lower after => codes.Cover terms ∧
        ∀ fact ∈ terms.facts, ∃ record, lower.Gives codes fact record ∧
          (source = .primary → after.primary.Places codes fact record) := by
  rw [lowerPasses_eq]
  refine (phrasePasses_yields.allow fun _ => .records).bind fun lower after _ h => ?_
  obtain ⟨phrasing⟩ := h
  refine codes_yields (fun _ => .missingTypeCode) fun _ cover => .pure ⟨cover, fun fact hfact => ?_⟩
  obtain ⟨code, hcode⟩ := cover _ (TermSet.type_mem_of_mem_facts hfact)
  exact ⟨_, phrasing.places hfact (TypeCodes.get?_of_codeOf hcode)⟩

/-- What comes of an interning. Lost ids that were to come back are there again unless there is a
mismatch. -/
structure TypeCodes.Interns (codes : TypeCodes) (source : Source) (terms : TermSet)
    (restoration : Option ((Fact → RowId) × List RowId)) (before : Table TermInLang)
    (interned : Interned) (after : Database) (idOf : Fact → RowId) : Prop where
  ids : interned.ids = terms.withIds idOf
  coherent : terms.Coherent codes idOf
  present : source = .primary → ∀ fact ∈ terms.facts, idOf fact ∈ after.termInLang.ids
  restored : ∀ previous lost, restoration = some (previous, lost) → source = .primary →
    terms.Coherent codes previous → (∀ id ∈ lost, id ∉ before.ids) → interned.mismatch = none →
    ∀ fact ∈ terms.facts, previous fact ∈ lost → previous fact ∈ after.termInLang.ids

theorem topPass_yields {lower : LowerIds}
    (placed : ∀ fact ∈ terms.facts, ∃ record, lower.Gives codes fact record ∧
      (source = .primary → storage.primary.Places codes fact record))
    (restoration : Option ((Fact → RowId) × List RowId)) :
    (topPass codes batch source terms
        (restoration.map fun given => ⟨terms.withIds given.1, given.2⟩) lower).Yields storage
      (Failure.OfRecords source) fun interned after => ∃ idOf, codes.Interns source terms
        restoration storage.primary.termInLang interned after.primary idOf := by
  have : Nonempty TermInLang := ⟨⟨0, 0⟩⟩
  choose! record gives places using placed
  rw [topPass_eq gives]
  have acquired := @acquireFacts_yields batch source storage .termInLang terms.facts record
    (restoration.map fun given => TermSet.forcedIds record given.1 given.2 terms.facts) ?_
  · refine acquired.bind fun acquired after _ h => ?_
    obtain ⟨acquires, idOf, hids⟩ := h
    refine .ok_bind (shapedIds_of_gives gives fun fact hfact => (hids fact hfact).1) ?_
    refine .pure ⟨idOf, rfl, ?_, ?_, ?_⟩
    · intro fact hfact other hother like
      have same := (gives fact hfact).unique (gives other hother) like
      have hid := (hids fact hfact).1
      rw [same, (hids other hother).1] at hid
      exact (Option.some.inj hid).symm
    · exact fun hsource fact hfact => Table.mem_ids.mpr ⟨_, (hids fact hfact).2 hsource⟩
    · -- Two facts with one record want the same id back, as the lower rows do not tell them apart.
      intro previous lost hgiven hsource coherent absent fit fact hfact hlost
      subst hsource
      subst hgiven
      have back := row_of_lost acquires fit absent (fun other hother same => ?_) hfact hlost
      · exact Table.mem_ids.mpr ⟨_, back⟩
      · have like := (same ▸ places other hother rfl).like (places fact hfact rfl)
        exact coherent other hother fact hfact like
  · intro hsource fact hfact parent hparent
    cases Option.some.inj hparent
    obtain ⟨_, _, hbelow, _⟩ := places fact hfact hsource
    exact Table.mem_ids.mpr ⟨_, hbelow⟩

theorem internFrom_yields (restoration : Option ((Fact → RowId) × List RowId)) :
    (internFrom codes batch source terms
        (restoration.map fun given => ⟨terms.withIds given.1, given.2⟩)).Yields storage
      (Failure.OfPasses codes source terms) fun interned after => codes.Cover terms ∧
        ∃ idOf, codes.Interns source terms restoration storage.primary.termInLang interned
          after.primary idOf := by
  rw [internFrom_eq]
  have lower := (@lowerPasses_yields codes batch source terms storage).within
    lowerPasses_termInLang
  refine lower.bind fun lower between _ h => ?_
  obtain ⟨⟨cover, placed⟩, kept⟩ := h
  have kept : between.primary.termInLang = storage.primary.termInLang := kept
  have top := @topPass_yields codes batch source terms between lower placed restoration
  refine (top.allow fun _ => .records).weaken fun interned after _ interns => ?_
  rw [kept] at interns
  exact ⟨cover, interns⟩

namespace Store

variable {store : Store}

theorem intern_yields : (store.intern terms).Yields storage
    (Failure.OfPasses store.codes .primary terms) fun interned _ => store.codes.Cover terms ∧
      ∃ idOf, interned.ids = terms.withIds idOf ∧ terms.Coherent store.codes idOf := by
  have each : ∀ source storage, (internFrom store.codes store.batch source terms none).Yields
      storage (Failure.OfPasses store.codes source terms) fun interned _ =>
        store.codes.Cover terms ∧
          ∃ idOf, interned.ids = terms.withIds idOf ∧ terms.Coherent store.codes idOf := by
    intro source storage
    have interned := @internFrom_yields store.codes store.batch source terms storage none
    refine interned.weaken fun interned after _ h => ?_
    obtain ⟨cover, idOf, interns⟩ := h
    exact ⟨cover, idOf, interns.ids, interns.coherent⟩
  unfold intern
  refine (each _ _).rescue (fun failure h hnone => ?_) fun failure other between _ h => ?_
  · -- Of the failures of the first attempt, a missing parent is the one that is handled.
    rcases h with ⟨h | ⟨⟩⟩ | ⟨htype, hcode⟩
    · exact .records (.storage h)
    · simp at hnone
    · exact .missingTypeCode htype hcode
  · split at h
    next => exact Option.some.inj h ▸ each _ _
    next => simp at h

/-- The check of ids fails only when the storage does. Otherwise all the ids that it gives are
there and, without a mismatch, so are the checked ones. -/
theorem reconcile_yields (cover : store.codes.Cover terms) {idOf : Fact → RowId}
    (coherent : terms.Coherent store.codes idOf) :
    (store.reconcile terms (terms.withIds idOf)).Yields storage Failure.OfStorage
      fun acquired after => (∀ id ∈ acquired.ids.ids, id ∈ after.primary.termInLang.ids) ∧
        (acquired.mismatch = none →
          ∀ id ∈ (terms.withIds idOf).ids, id ∈ after.primary.termInLang.ids) := by
  unfold reconcile
  refine .query_bind ?_
  generalize hlost : (storage.database .primary).absentIds store.batch .termInLang
    (terms.withIds idOf).ids = lost
  have mem_lost : ∀ id, id ∈ lost ↔
      id ∈ (terms.withIds idOf).ids ∧ id ∉ storage.primary.termInLang.ids := by
    intro id
    rw [← hlost]
    exact Database.mem_absentIds
  split
  next hnil =>
    have present : ∀ id ∈ (terms.withIds idOf).ids, id ∈ storage.primary.termInLang.ids := by
      intro id hid
      refine Decidable.byContradiction fun hn => ?_
      have hid := (mem_lost id).mpr ⟨hid, hn⟩
      rw [List.isEmpty_iff.mp hnil] at hid
      simp at hid
    exact .pure ⟨present, fun _ => present⟩
  next =>
    have restored := (@internFrom_yields store.codes store.batch .primary terms storage
      (some (idOf, lost))).allow fun _ => cover.ofStorage
    refine restored.bind fun interned after grows h => .pure ?_
    obtain ⟨_, final, interns⟩ := h
    refine ⟨fun id hid => ?_, fun fit id hid => ?_⟩
    · rw [interns.ids] at hid
      obtain ⟨fact, hfact, rfl⟩ := TermSet.mem_ids_withIds.mp hid
      exact interns.present rfl fact hfact
    · have fit : interned.mismatch = none := Option.map_eq_none_iff.mp fit
      by_cases hthere : id ∈ (storage.primary.table .termInLang).ids
      · exact grows.ids hthere
      · have habsent : ∀ id ∈ lost, id ∉ storage.primary.termInLang.ids :=
          fun id hid => ((mem_lost id).mp hid).2
        have hlost := (mem_lost id).mpr ⟨hid, hthere⟩
        obtain ⟨fact, hfact, rfl⟩ := TermSet.mem_ids_withIds.mp hid
        exact interns.restored idOf lost rfl rfl coherent habsent fit fact hfact hlost

end Store

end Termbase
