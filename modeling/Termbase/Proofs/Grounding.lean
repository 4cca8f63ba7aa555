import Termbase.Proofs.Constancy
import Termbase.Proofs.Events
import Termbase.Proofs.Idempotence

namespace Termbase

theorem Storage.Grows.referenced {storage after : Storage} (h : storage.Grows after) {level : Level}
    {id : RowId} (referenced : storage.primary.Referenced level id) :
    after.primary.Referenced level id := by
  obtain ⟨above, row, hrow, hparent⟩ := referenced
  exact ⟨above, row, h.rows above row hrow, hparent⟩

namespace Acquires

variable {batch : BatchSize} {source : Source} {level : Level} {records : List level.Record}
  {forced : Option (ForcedIds level)} {storage after : Storage} {ids : RecordIds level}

/-- The id of a new row is the one that its record gets, and so is that of any row of the primary
when the primary has been read. -/
theorem lookup_row
    (h : Acquires batch level records forced (storage.database source) storage (.ok ids) after)
    {row : RowId × level.Record} (hrow : row ∈ (after.primary.table level).rows)
    (hrecord : row.2 ∈ records)
    (own : source = .primary ∨ row ∉ (storage.primary.table level).rows) :
    ids.entries.lookup row.2 = some row.1 := by
  rw [h.lookup hrecord]
  by_cases hknown : row.2 ∈ ((storage.database source).table level).records
  · rcases own with rfl | fresh
    · obtain ⟨id, hid⟩ := Table.mem_records.mp hknown
      have same : id = row.1 := Table.id_unique (h.grows.rows level _ hid) hrow
      exact Or.inl (same ▸ hid)
    · exact absurd hknown (Database.mem_unknown.mp (h.added hrow fresh)).2
  · exact Or.inr ⟨hknown, hrow⟩

/-- What a record points at is pointed at by a row, unless the replica has told its id. -/
theorem references
    (h : Acquires batch level records forced (storage.database source) storage (.ok ids) after)
    {record : level.Record} (hrecord : record ∈ records)
    (own : source = .primary ∨ record ∉ (storage.replica.table level).records)
    {parent : Level × RowId} (hparent : level.parent? record = some parent) :
    after.primary.Referenced parent.1 parent.2 := by
  obtain ⟨id, hid⟩ := h.found hrecord
  suffices hrow : (id, record) ∈ (after.primary.table level).rows from ⟨level, _, hrow, hparent⟩
  rcases (h.lookup hrecord).mp hid with hknown | ⟨_, hrow⟩
  · cases source with
    | primary => exact h.grows.rows level _ hknown
    | replica => exact absurd (Table.mem_records.mpr ⟨id, hknown⟩) (own.resolve_left nofun)
  · exact hrow

end Acquires

namespace Ledger

variable {ledger : Ledger} {storage : Storage} {codes : TypeCodes} {fact : Fact}

/-- The replica has no row that points at an id beyond the last one. -/
theorem Sound.beyond (sound : ledger.Sound storage) {level : Level} {record : level.Record}
    {parent : Level × RowId} (hparent : level.parent? record = some parent)
    (hbeyond : (storage.primary.table parent.1).lastId < parent.2) :
    record ∉ (storage.replica.table level).records := by
  intro hrecord
  obtain ⟨meaning, hread⟩ := sound.replica.readable hrecord
  have given : ∃ found, ledger.entry parent.1 parent.2 = some found := by
    cases level with
    | text => simp [Level.parent?] at hparent
    | textInLang =>
      cases Option.some.inj hparent
      obtain ⟨found, hfound, _⟩ := Option.map_eq_some_iff.mp hread
      exact ⟨found, hfound⟩
    | termInLang =>
      cases Option.some.inj hparent
      obtain ⟨found, hfound, _⟩ := Option.map_eq_some_iff.mp hread
      exact ⟨found, hfound⟩
  obtain ⟨found, hfound⟩ := given
  have hle := sound.bounded parent.1 parent.2 found hfound
  exact Int64.lt_irrefl (Int64.lt_of_lt_of_le hbeyond hle)

end Ledger

section Passes

variable {codes : TypeCodes} {batch : BatchSize} {source : Source} {terms : TermSet}
  {storage mid after : Storage} {lower : LowerIds} {ledger : Ledger}

namespace Phrasing

variable (phrasing : Phrasing batch source terms storage lower mid)

include phrasing

theorem lastId_lt {level : Level} (below : level ≠ .termInLang) {row : RowId × level.Record}
    (hrow : row ∈ (mid.primary.table level).rows)
    (fresh : row ∉ (storage.primary.table level).rows) :
    (storage.primary.table level).lastId < row.1 := by
  have renews := Storage.Renews.trans _ _ _ (phrasing.texts.renews fun _ => rfl)
    (phrasing.phrases.renews fun _ => rfl)
  exact ((renews level below).rows row hrow).resolve_left fresh

/-- A text of some fact is pointed at if its row is new or if the primary has been read. -/
theorem text_referenced (sound : ledger.Sound storage) {row : RowId × String}
    (hrow : row ∈ mid.primary.text.rows)
    (own : source = .primary ∨ row ∉ storage.primary.text.rows)
    {fact : Fact} (hfact : fact ∈ terms.facts) (htext : row.2 = fact.text) :
    mid.primary.Referenced .text row.1 := by
  have different : Level.text ≠ .textInLang := nofun
  have hfirst : row ∈ (phrasing.between.primary.table .text).rows :=
    phrasing.phrases.other different ▸ hrow
  have listed : row.2 ∈ Level.text.distinct (terms.facts.map Fact.text) :=
    Level.mem_distinct.mpr (List.mem_map.mpr ⟨fact, hfact, htext.symm⟩)
  have hid := phrasing.texts.lookup_row hfirst listed own
  rw [htext, (phrasing.text fact hfact).1] at hid
  have hid : phrasing.textId fact = row.1 := Option.some.inj hid
  rw [← hid]
  have above : (⟨phrasing.textId fact, fact.language⟩ : TextInLang) ∈ Level.textInLang.distinct
      (terms.facts.map fun fact => ⟨phrasing.textId fact, fact.language⟩) :=
    Level.mem_distinct.mpr (List.mem_map.mpr ⟨fact, hfact, rfl⟩)
  refine phrasing.phrases.references above (own.imp_right fun fresh => ?_) rfl
  have below : Level.text ≠ .termInLang := nofun
  have hlt := phrasing.lastId_lt below hrow fresh
  rw [phrasing.first.replica]
  exact sound.beyond rfl (hid ▸ hlt)

/-- A new text in a language is one of the facts that are to be interned. -/
theorem phrase_fresh {row : RowId × TextInLang} (hrow : row ∈ mid.primary.textInLang.rows)
    (fresh : row ∉ storage.primary.textInLang.rows) :
    ∃ fact ∈ terms.facts, phrasing.phraseId fact = row.1 := by
  have different : Level.textInLang ≠ .text := nofun
  have fresh : row ∉ (phrasing.between.primary.table .textInLang).rows := by
    rwa [phrasing.texts.other different]
  have listed := (Database.mem_unknown.mp (phrasing.phrases.added hrow fresh)).1
  have hid := phrasing.phrases.lookup_row hrow listed (Or.inr fresh)
  obtain ⟨fact, hfact, hrecord⟩ := List.mem_map.mp (Level.mem_distinct.mp listed)
  rw [← hrecord, (phrasing.phrase fact hfact).1] at hid
  exact ⟨fact, hfact, Option.some.inj hid⟩

/-- Once the last pass has ended well, a new text in a language is pointed at. -/
theorem phrase_referenced (sound : ledger.Sound storage) (cover : codes.Cover terms)
    {interned : Interned}
    (run : (topPass codes batch source terms none lower).run mid = (.ok interned, after))
    {row : RowId × TextInLang} (hrow : row ∈ mid.primary.textInLang.rows)
    (fresh : row ∉ storage.primary.textInLang.rows) :
    after.primary.Referenced .textInLang row.1 := by
  obtain ⟨fact, hfact, hid⟩ := phrasing.phrase_fresh hrow fresh
  have coded : ∀ fact ∈ terms.facts, ∃ code, codes.get? fact.type = some code := by
    intro fact hfact
    obtain ⟨code, hcode⟩ := cover _ (TermSet.type_mem_of_mem_facts hfact)
    exact ⟨code, TypeCodes.get?_of_codeOf hcode⟩
  choose! code hcode using coded
  have run : (topPass codes batch source terms ((none : Option ((Fact → RowId) × List RowId)).map
      fun given => ⟨terms.withIds given.1, given.2⟩) lower).run mid = (.ok interned, after) := run
  rw [topPass_eq fun fact hfact => (phrasing.places hfact (hcode fact hfact)).1] at run
  obtain ⟨acquired, between, hacquired, hrest⟩ := Action.bind_ok run
  have acquires := acquireIds_acquires hacquired
  obtain ⟨ids, _, hids, hpure⟩ := Action.bind_ok hrest
  obtain ⟨_, rfl⟩ := Prod.mk.inj hids
  obtain ⟨_, rfl⟩ := Prod.mk.inj hpure
  have above : (⟨phrasing.phraseId fact, code fact⟩ : TermInLang) ∈ Level.termInLang.distinct
      (terms.facts.map fun fact => ⟨phrasing.phraseId fact, code fact⟩) :=
    Level.mem_distinct.mpr (List.mem_map.mpr ⟨fact, hfact, rfl⟩)
  rw [← hid]
  refine acquires.references above (Or.inr ?_) rfl
  have below : Level.textInLang ≠ .termInLang := nofun
  have hlt := phrasing.lastId_lt below hrow fresh
  rw [(phrasing.first.trans _ _ _ phrasing.second).replica]
  exact sound.beyond rfl (hid ▸ hlt)

end Phrasing

theorem topPass_other {restoration : Option Restoration} {other : Level}
    (different : other ≠ .termInLang) :
    (topPass codes batch source terms restoration lower).Within fun storage after =>
      after.primary.table other = storage.primary.table other := by
  have refl : ∀ storage : Storage, storage.primary.table other = storage.primary.table other :=
    fun _ => rfl
  have trans : ∀ a b c : Storage, b.primary.table other = a.primary.table other →
      c.primary.table other = b.primary.table other →
      c.primary.table other = a.primary.table other :=
    fun _ _ _ hab hbc => hbc.trans hab
  unfold topPass
  refine .bind trans (.ofResult refl _) fun records => ?_
  refine .bind trans (.ofResult refl _) fun forced => ?_
  refine .bind trans (acquireIds_other different _ _) fun acquired => ?_
  refine .bind trans (.ofResult refl _) fun ids => ?_
  exact .pure refl _

/-- The levels at which an interning has come so far that nothing is left without a row above. -/
inductive Reaches : Except Failure Interned → Level → Prop
  | ended {interned level} : level ≠ .termInLang → Reaches (.ok interned) level
  | uncoded {type} : Reaches (.error (.missingTypeCode type)) .text

/-- What the passes add is pointed at, as far as they have come. When they read the primary, so is
every row that some fact needs. -/
theorem internFrom_reaches {outcome : Except Failure Interned} (sound : ledger.Sound storage)
    (run : (internFrom codes batch source terms none).run storage = (outcome, after)) :
    ∃ later, ledger.Adds terms.facts codes storage later after ∧
      (∀ interned, outcome = .ok interned →
        ∃ idOf, later.Names codes terms interned.ids idOf) ∧
      ∀ level, Reaches outcome level → ∀ row ∈ (after.primary.table level).rows,
        ∀ fact ∈ terms.facts, later.Knows codes fact level row.1 →
          source = .primary ∨ row ∉ (storage.primary.table level).rows →
          after.primary.Referenced level row.1 := by
  obtain ⟨later, adds, named⟩ :=
    @Ledger.leads_unrestored ledger storage terms sound codes batch source
  rw [run] at adds named
  refine ⟨later, adds, fun interned he => ?_, fun level reaches row hrow fact hfact known own => ?_⟩
  · obtain ⟨idOf, names, _⟩ := named interned he
    exact ⟨idOf, names⟩
  rw [internFrom_eq, lowerPasses_eq, bind_assoc] at run
  rcases Action.bind_cases run with ⟨failure, hphrases, rfl⟩ | ⟨lower, mid, hphrases, hrest⟩
  · -- A code is only looked for when the first two passes are through.
    have fails := (phrasePasses_yields.error hphrases).2
    cases reaches
    cases fails with
    | storage fails => cases fails
  obtain ⟨_, ⟨phrasing⟩⟩ := phrasePasses_yields.ok hphrases
  rw [bind_assoc] at hrest
  rcases Action.bind_cases hrest with ⟨failure, hcodes, rfl⟩ | ⟨list, _, hcodes, htop⟩
  · obtain ⟨_, rfl⟩ := Prod.mk.inj hcodes
    cases reaches
    have htext := adds.sound.primary.text_eq hrow known
    exact phrasing.text_referenced sound hrow own hfact htext.symm
  obtain ⟨hlist, rfl⟩ := Prod.mk.inj hcodes
  have cover : codes.Cover terms := mapM_ok_mem hlist
  have htop : (topPass codes batch source terms none lower).run mid = (outcome, after) := htop
  have kept {other : Level} (different : other ≠ .termInLang) :
      after.primary.table other = mid.primary.table other := by
    have kept := @topPass_other codes batch source terms lower none other different mid
    rwa [htop] at kept
  have placed : ∀ fact ∈ terms.facts, ∃ record, lower.Gives codes fact record ∧
      (source = .primary → mid.primary.Places codes fact record) := by
    intro fact hfact
    obtain ⟨code, hcode⟩ := cover _ (TermSet.type_mem_of_mem_facts hfact)
    exact ⟨_, phrasing.places hfact (TypeCodes.get?_of_codeOf hcode)⟩
  have top := @topPass_yields codes batch source terms mid lower placed none
  cases reaches with
  | uncoded =>
    -- With all codes there, the last pass fails by the storage or for want of parents only.
    cases (top.error htop).2 with
    | storage fails => cases fails
  | @ended interned _ below =>
    obtain ⟨idOf, names, present⟩ := named interned rfl
    rcases own with rfl | fresh
    · exact adds.sound.referenced (present rfl fact hfact) (names.known fact hfact) below
        (Table.mem_ids.mpr ⟨_, hrow⟩) known
    · cases level with
      | termInLang => exact absurd rfl below
      | text =>
        have hmid : row ∈ (mid.primary.table .text).rows := kept below ▸ hrow
        have htext := adds.sound.primary.text_eq hrow known
        have referenced := phrasing.text_referenced sound hmid (Or.inr fresh) hfact htext.symm
        exact (top.ok htop).1.referenced referenced
      | textInLang =>
        have hmid : row ∈ (mid.primary.table .textInLang).rows := kept below ▸ hrow
        exact phrasing.phrase_referenced sound cover htop hmid fresh

end Passes

section Stores

variable {store : Store} {terms : TermSet} {storage after : Storage} {ledger : Ledger}
  {held : Phrase → Prop} {outcome : Except Failure Interned}

/-- Interning is one run of the passes, or a run on the primary after one that has failed. -/
theorem Store.intern_cases (run : (store.intern terms).run storage = (outcome, after)) :
    (internFrom store.codes store.batch store.source terms none).run storage = (outcome, after) ∨
      ∃ failure mid, (internFrom store.codes store.batch store.source terms none).run storage =
          (.error failure, mid) ∧
        (internFrom store.codes store.batch .primary terms none).run mid = (outcome, after) := by
  unfold intern at run
  rw [Action.run_rescue] at run
  split at run
  next interned mid hmid => exact Or.inl (hmid.trans run)
  next failure mid hmid =>
    split at run
    next other hother =>
      split at hother
      next => exact Or.inr ⟨_, mid, hmid, Option.some.inj hother ▸ run⟩
      next => simp at hother
    next => exact Or.inl (hmid.trans run)

/-- What an interning adds is pointed at, as far as it has come. -/
theorem Store.intern_reaches (sound : ledger.Sound storage)
    (run : (store.intern terms).run storage = (outcome, after)) :
    ∃ later, ledger.Adds terms.facts store.codes storage later after ∧
      (∀ interned, outcome = .ok interned →
        ∃ idOf, later.Names store.codes terms interned.ids idOf) ∧
      ∀ level, Reaches outcome level → ∀ row ∈ (after.primary.table level).rows,
        row ∉ (storage.primary.table level).rows → after.primary.Referenced level row.1 := by
  rcases intern_cases run with once | ⟨failure, mid, first, second⟩
  · obtain ⟨later, adds, named, reached⟩ := internFrom_reaches sound once
    refine ⟨later, adds, named, fun level reaches row hrow fresh => ?_⟩
    obtain ⟨fact, hfact, known⟩ := (adds.added level row hrow).resolve_left fresh
    exact reached level reaches row hrow fact hfact known (Or.inr fresh)
  · -- What the failed run has added is found by the second one, which reads the primary.
    obtain ⟨middle, adds, _⟩ := internFrom_reaches sound first
    obtain ⟨later, adds', named, reached⟩ := internFrom_reaches adds.sound second
    have all := adds.trans adds'
    refine ⟨later, all, named, fun level reaches row hrow fresh => ?_⟩
    obtain ⟨fact, hfact, known⟩ := (all.added level row hrow).resolve_left fresh
    exact reached level reaches row hrow fact hfact known (Or.inl rfl)

/-- Each text is pointed at, and so is each text in a language that is one of the phrases. -/
structure Database.Grounded (db : Database) (held : Phrase → Prop) : Prop where
  text : ∀ row ∈ db.text.rows, db.Referenced .text row.1
  textInLang : ∀ row ∈ db.textInLang.rows, ∀ phrase,
    db.meaning? .textInLang row.2 = some phrase → held phrase → db.Referenced .textInLang row.1

theorem Database.meaning?_mono {db later : Database} {record : TextInLang} {phrase : Phrase}
    (rows : ∀ row ∈ db.text.rows, row ∈ later.text.rows)
    (h : db.meaning? .textInLang record = some phrase) :
    later.meaning? .textInLang record = some phrase := by
  obtain ⟨text, htext, he⟩ := Option.map_eq_some_iff.mp h
  have hrow := rows _ (Table.record?_eq_some_iff.mp htext)
  exact Option.map_eq_some_iff.mpr ⟨text, Table.record?_eq_some_iff.mpr hrow, he⟩

theorem Storage.Grows.grounded (grows : storage.Grows after) (intact : storage.primary.Intact)
    (grounded : storage.primary.Grounded held)
    (text : ∀ row ∈ after.primary.text.rows, row ∉ storage.primary.text.rows →
      after.primary.Referenced .text row.1)
    (textInLang : ∀ row ∈ after.primary.textInLang.rows, row ∉ storage.primary.textInLang.rows →
      ∀ phrase, after.primary.meaning? .textInLang row.2 = some phrase → held phrase →
        after.primary.Referenced .textInLang row.1) : after.primary.Grounded held := by
  refine ⟨fun row hrow => ?_, fun row hrow phrase hmeaning hheld => ?_⟩
  · by_cases hold : row ∈ storage.primary.text.rows
    · exact grows.referenced (grounded.text row hold)
    · exact text row hrow hold
  · by_cases hold : row ∈ storage.primary.textInLang.rows
    · obtain ⟨value, hvalue⟩ := Table.mem_ids.mp (intact.textInLang row hold)
      have before : storage.primary.meaning? .textInLang row.2 = some ⟨row.2.language, value⟩ :=
        Option.map_eq_some_iff.mpr ⟨value, Table.record?_eq_some_iff.mpr hvalue, rfl⟩
      have same := (Database.meaning?_mono (grows.rows .text) before).symm.trans hmeaning
      exact grows.referenced (grounded.textInLang row hold phrase (before.trans same) hheld)
    · exact textInLang row hrow hold phrase hmeaning hheld

end Stores

end Termbase
