import Termbase.Proofs.Grounding

namespace Termbase

/-- The ledger accounts for the storage, and the primary is grounded. -/
structure Ledger.Grounds (ledger : Ledger) (held : Phrase → Prop) (storage : Storage) : Prop where
  sound : ledger.Sound storage
  grounded : storage.primary.Grounded held

section Stores

variable {store : Store} {terms : TermSet} {storage after : Storage} {ledger : Ledger}
  {held : Phrase → Prop}

theorem Store.intern_grounds {outcome : Except Failure Interned}
    (grounds : ledger.Grounds held storage)
    (run : (store.intern terms).run storage = (outcome, after))
    (served : ¬StorageFails outcome)
    (coded : ∀ phrase, held phrase → phrase ∈ terms.facts.map Fact.phrase →
      ¬store.LacksCode terms storage) :
    ∃ later, ledger ≤ later ∧ later.Grounds held after ∧ ∀ interned, outcome = .ok interned →
      ∃ idOf, later.Names store.codes terms interned.ids idOf := by
  obtain ⟨later, adds, named, reached⟩ := intern_reaches grounds.sound run
  have stops : ∀ failure, outcome = .error failure →
      ∃ type, outcome = .error (.missingTypeCode type) := by
    rintro failure rfl
    rcases (intern_yields.error run).2 with ⟨fails | ⟨⟨⟩⟩⟩ | _
    · exact absurd fails served
    · exact ⟨_, rfl⟩
  refine ⟨later, adds.le, ⟨adds.sound, ?_⟩, named⟩
  refine adds.grows.grounded grounds.sound.intact grounds.grounded
    (fun row hrow fresh => ?_) fun row hrow fresh phrase hmeaning hheld => ?_
  · have reaches : Reaches outcome .text := by
      cases outcome with
      | ok interned => exact .ended nofun
      | error failure =>
        obtain ⟨type, he⟩ := stops failure rfl
        exact he ▸ .uncoded
    exact reached .text reaches row hrow fresh
  · cases outcome with
    | ok interned => exact reached .textInLang (.ended nofun) row hrow fresh
    | error failure =>
      -- The row is for one of the facts, and the call fails for lack of a code.
      obtain ⟨type, he⟩ := stops failure rfl
      obtain ⟨fact, hfact, found, hentry, hat⟩ :=
        (adds.added .textInLang row hrow).resolve_left fresh
      have decodes : after.primary.meaning? .textInLang row.2 = later.entry .textInLang row.1 :=
        adds.sound.primary.meaning?_eq adds.sound.intact hrow
      rw [hmeaning, hentry] at decodes
      have hphrase : fact.phrase = phrase := (Option.some.inj decodes |>.trans hat).symm
      have listed := List.mem_map.mpr ⟨fact, hfact, hphrase⟩
      exact absurd ⟨type, (congrArg Prod.fst run).trans he⟩ (coded phrase hheld listed)

theorem Store.reconcile_grounds {ids : TermIds} {idOf : Fact → RowId} {acquired : Acquired}
    (grounds : ledger.Grounds held storage) (names : ledger.Names store.codes terms ids idOf)
    (run : (store.reconcile terms ids).run storage = (.ok acquired, after)) :
    ∃ later, ledger ≤ later ∧ later.Grounds held after := by
  obtain ⟨later, adds, settled⟩ := Ledger.leads_reconcile grounds.sound names
  rw [run] at adds settled
  obtain ⟨final, settles⟩ := settled acquired rfl
  have referenced : ∀ level, level ≠ .termInLang → ∀ row ∈ (after.primary.table level).rows,
      row ∉ (storage.primary.table level).rows → after.primary.Referenced level row.1 := by
    intro level below row hrow fresh
    obtain ⟨fact, hfact, known⟩ := (adds.added level row hrow).resolve_left fresh
    exact adds.sound.referenced (settles.present fact hfact) (settles.names.known fact hfact)
      below (Table.mem_ids.mpr ⟨_, hrow⟩) known
  refine ⟨later, adds.le, adds.sound, ?_⟩
  exact adds.grows.grounded grounds.sound.intact grounds.grounded (referenced .text nofun)
    fun row hrow fresh _ _ _ => referenced .textInLang nofun row hrow fresh

/-- An interning call keeps things grounded when its callback does, unless the storage fails or a
phrase is left without a term. -/
theorem Store.acquireWith_grounds {σ : Type} [HasStorage σ] {accounts : Ledger → σ → Prop}
    (grounds : ∀ ledger state, accounts ledger state →
      ledger.Grounds held (HasStorage.storage state))
    (stored : ∀ ledger later state storage, accounts ledger state → ledger ≤ later →
      later.Grounds held storage → accounts later (HasStorage.withStorage state storage))
    {callback : List RowId → Action σ Unit} {state : σ}
    (served : ¬store.FailsOnStorage terms callback state)
    (coded : ∀ phrase, held phrase → phrase ∈ terms.facts.map Fact.phrase →
      ¬store.LacksCode terms (HasStorage.storage state))
    (uncalled : terms.isEmpty = true → Accounted accounts state ((callback []).run state).2)
    (called : ¬terms.isEmpty = true → ∀ interned mid,
      (store.intern terms).run (HasStorage.storage state) = (.ok interned, mid) →
      Accounted accounts (HasStorage.withStorage state mid)
        ((callback interned.ids.ids).run (HasStorage.withStorage state mid)).2) :
    Accounted accounts state ((store.acquireWith terms callback).run state).2 := by
  by_cases hempty : terms.isEmpty = true
  · unfold acquireWith
    rw [if_pos hempty]
    exact Action.Within.bind_after Accounted.trans (uncalled hempty) fun _ =>
      .pure Accounted.refl _
  intro ledger accounted
  rcases hrun : (store.acquireWith terms callback).run state with ⟨outcome, after⟩
  rcases acquireWith_cases hempty hrun with ⟨failure, mid, hmid, _, rfl⟩ | ⟨interned, mid, hmid, h⟩
  · have possible : ¬StorageFails (.error failure : Except Failure Interned) :=
      fun fails => served (failsOnStorage_interning hmid fails)
    obtain ⟨later, hle, grounded, _⟩ :=
      intern_grounds (grounds ledger state accounted) hmid possible coded
    exact ⟨later, hle, stored ledger later state mid accounted hle grounded⟩
  obtain ⟨first, hle, grounded, named⟩ :=
    intern_grounds (grounds ledger state accounted) hmid id coded
  obtain ⟨idOf, names⟩ := named interned rfl
  have between := stored ledger first state mid accounted hle grounded
  obtain ⟨second, hle', nested⟩ := called hempty interned mid hmid first between
  rcases h with ⟨failure, hcall, _⟩ | ⟨moment, last, hcall, hlast, rfl⟩
  · rw [hcall] at nested
    exact ⟨second, Ledger.le_trans hle hle', nested⟩
  rw [hcall] at nested
  cases outcome with
  | ok acquired =>
    obtain ⟨third, hle'', restored⟩ :=
      reconcile_grounds (grounds second moment nested) (names.mono hle') hlast
    exact ⟨third, Ledger.le_trans (Ledger.le_trans hle hle') hle'',
      stored second third moment last nested hle'' restored⟩
  | error failure =>
    -- The codes cover the terms by now, so only the storage can have failed.
    obtain ⟨_, cover, given, hids, coherent⟩ := intern_yields.ok hmid
    have checked := hlast
    rw [hids] at checked
    obtain ⟨_, fails⟩ := (reconcile_yields cover coherent).error checked
    exact absurd (failsOnStorage_restoring hmid hcall hlast fails) served

end Stores

section Actions

variable {db later : Database} {held : Phrase → Prop}

theorem Database.Grounded.of_tables (grounded : db.Grounded held)
    (tables : ∀ level, later.table level = db.table level) : later.Grounded held := by
  have referenced : ∀ level id, db.Referenced level id → later.Referenced level id := by
    rintro level id ⟨above, row, hrow, hparent⟩
    exact ⟨above, row, tables above ▸ hrow, hparent⟩
  have text : later.text = db.text := tables .text
  have textInLang : later.textInLang = db.textInLang := tables .textInLang
  refine ⟨fun row hrow => referenced _ _ (grounded.text row (text ▸ hrow)), ?_⟩
  intro row hrow phrase hmeaning
  have hmeaning : db.meaning? .textInLang row.2 = some phrase :=
    Database.meaning?_mono (fun _ h => text ▸ h) hmeaning
  exact fun hheld =>
    referenced _ _ (grounded.textInLang row (textInLang ▸ hrow) phrase hmeaning hheld)

theorem Database.Grounded.clean (grounded : db.Grounded held) (batch : BatchSize)
    (ids : List RowId) : (db.clean batch ids).2.Grounded held := by
  refine ⟨fun row hrow => ?_, fun row hrow phrase hmeaning hheld => ?_⟩
  · exact (grounded.text row (Database.mem_clean_text.mp hrow).1).clean hrow
  · have fewer : ∀ text ∈ (db.clean batch ids).2.text.rows, text ∈ db.text.rows :=
      fun _ h => (Database.mem_clean_text.mp h).1
    have hmeaning : db.meaning? .textInLang row.2 = some phrase :=
      Database.meaning?_mono fewer hmeaning
    have hbefore := (Database.mem_clean_textInLang.mp hrow).1
    exact (grounded.textInLang row hbefore phrase hmeaning hheld).clean hrow

theorem Ledger.Grounds.of_tables {ledger : Ledger} {storage after : Storage}
    (grounds : ledger.Grounds held storage) (sound : ledger.Sound after)
    (tables : ∀ level, after.primary.table level = storage.primary.table level) :
    ledger.Grounds held after :=
  ⟨sound, grounds.grounded.of_tables tables⟩

theorem replaceLinks_grounds (entity : EntityId) (ids : List RowId) :
    (replaceLinks entity ids).Within (Accounted fun ledger => ledger.Grounds held) := by
  refine .transact Accounted.refl fun storage result primary h ledger grounds => ?_
  cases (Prod.mk.inj (Except.ok.inj h)).2
  exact ⟨ledger, Ledger.le_refl ledger, grounds.of_tables (grounds.sound.withLinks _ _)
    fun level => Database.table_withLinks _ _ _ level⟩

theorem removeLinks_grounds (entity : EntityId) :
    (removeLinks entity).Within (Accounted fun ledger => ledger.Grounds held) := by
  refine .transact Accounted.refl fun storage result primary h ledger grounds => ?_
  cases (Prod.mk.inj (Except.ok.inj h)).2
  exact ⟨ledger, Ledger.le_refl ledger, grounds.of_tables (grounds.sound.withLinks _ _)
    fun level => Database.table_withLinks _ _ _ level⟩

theorem clean_grounds (batch : BatchSize) (ids : List RowId) :
    (clean batch ids).Within (Accounted fun ledger => ledger.Grounds held) :=
  clean_within Accounted.refl (fun _ ids ledger grounds => ⟨ledger, Ledger.le_refl ledger,
    grounds.sound.clean batch ids, grounds.grounded.clean batch ids⟩) ids

theorem registerTypes_grounds (types : List TermType) :
    (registerTypes types).Within (Accounted fun ledger => ledger.Grounds held) := by
  refine registerTypes_within Accounted.refl Accounted.trans
    (fun storage codes ledger grounds => ?_) types
  refine ⟨ledger, Ledger.le_refl ledger, grounds.of_tables (grounds.sound.withTypeCodes codes) ?_⟩
  intro level
  cases level <;> rfl

end Actions

/-- The ledger accounts for all that the primary has held, and it has been grounded all the time. -/
structure Ledger.GroundsAlways (ledger : Ledger) (held : Phrase → Prop) (timeline : Timeline) :
    Prop where
  recalls : ledger.Recalls timeline
  grounded : ∀ db ∈ timeline.storage.primary :: timeline.past, db.Grounded held

namespace Ledger.GroundsAlways

variable {ledger later : Ledger} {held : Phrase → Prop} {timeline : Timeline}

theorem latest (h : ledger.GroundsAlways held timeline) : ledger.Grounds held timeline.storage :=
  ⟨h.recalls.sound, h.grounded _ List.mem_cons_self⟩

theorem start (codes : Table String) (held : Phrase → Prop) :
    Ledger.empty.GroundsAlways held (Timeline.start codes Database.empty) := by
  refine ⟨.start codes, fun db hdb => ?_⟩
  have hdb : db = { Database.empty with typeCodes := codes } := by
    simpa [Timeline.start] using hdb
  subst hdb
  exact ⟨fun row hrow => absurd hrow List.not_mem_nil, fun row hrow => absurd hrow List.not_mem_nil⟩

theorem noted (h : ledger.GroundsAlways held timeline) :
    ledger.GroundsAlways held timeline.noted := by
  refine ⟨h.recalls.noted, fun db hdb => ?_⟩
  rcases List.mem_cons.mp hdb with rfl | hdb
  · exact h.latest.grounded
  · exact h.grounded db hdb

theorem stored {storage : Storage} (h : ledger.GroundsAlways held timeline) (hle : ledger ≤ later)
    (grounds : later.Grounds held storage) :
    later.GroundsAlways held { timeline with storage := storage } := by
  refine ⟨h.recalls.stored hle grounds.sound, fun db hdb => ?_⟩
  rcases List.mem_cons.mp hdb with rfl | hdb
  · exact grounds.grounded
  · exact h.grounded db (List.mem_cons_of_mem _ hdb)

theorem replicated (h : ledger.GroundsAlways held timeline) {replica : Database}
    (explained : ledger.Explains replica) : ledger.GroundsAlways held
      { timeline with storage := { timeline.storage with replica := replica } } :=
  ⟨h.recalls.replicated explained, h.grounded⟩

end Ledger.GroundsAlways

/-- A call for which the storage fails, or one that leaves one of the phrases without a term. -/
def Operation.Strays (held : Phrase → Prop) (operation : Operation) (timeline : Timeline) : Prop :=
  operation.FailsOnStorage timeline ∨ ∃ phrase, held phrase ∧ operation.LacksCode phrase timeline

theorem runs_grounded (held : Phrase → Prop) :
    LedWithout (Operation.Managed fun _ => True) (Operation.Strays held)
      (Accounted fun ledger => ledger.GroundsAlways held) := by
  have refl := @Accounted.refl Timeline fun ledger => ledger.GroundsAlways held
  have trans := @Accounted.trans Timeline fun ledger => ledger.GroundsAlways held
  have note : ∀ timeline : Timeline, Accounted (fun ledger => ledger.GroundsAlways held)
      timeline timeline.noted :=
    fun timeline ledger h => ⟨ledger, Ledger.le_refl ledger, h.noted⟩
  have lift : ∀ (timeline : Timeline) (after : Storage),
      Accounted (fun ledger => ledger.Grounds held) timeline.storage after →
      Accounted (fun ledger => ledger.GroundsAlways held) timeline
        { timeline with storage := after } := by
    intro timeline after h ledger always
    obtain ⟨later, hle, grounds⟩ := h ledger always.latest
    exact ⟨later, hle, always.stored hle grounds⟩
  have acts {α : Type} {action : Action Storage α}
      (h : action.Within (Accounted fun ledger => ledger.Grounds held)) :=
    Timeline.act_within trans note lift h
  have acquired {store : Store} {terms : TermSet} {callback : List RowId → Action Storage Unit}
      {storage : Storage} (served : ¬store.FailsOnStorage terms callback storage)
      (coded : ∀ phrase, held phrase → phrase ∈ terms.facts.map Fact.phrase →
        ¬store.LacksCode terms storage)
      (called : ∀ ids, (callback ids).Within (Accounted fun ledger => ledger.Grounds held)) :
      Accounted (fun ledger => ledger.Grounds held) storage
        ((store.acquireWith terms callback).run storage).2 :=
    Store.acquireWith_grounds (fun _ _ h => h) (fun _ _ _ _ _ _ h => h) served coded
      (fun _ => called [] storage) fun _ interned mid _ => called interned.ids.ids mid
  have replicates (replica : Timeline → Database) (h : ∀ ledger timeline,
      ledger.Recalls timeline → ledger.Explains (replica timeline)) :
      (Timeline.replicate replica).Within (Accounted fun ledger => ledger.GroundsAlways held) :=
    fun timeline ledger always =>
      ⟨ledger, Ledger.le_refl ledger, always.replicated (h ledger timeline always.recalls)⟩
  refine ⟨refl, trans, note, ?_, ?_, ?_⟩
  · intro store terms callback ending managed ids operation hoperation
    cases managed with
    | acquireWith _ _ _ _ nested => exact nested ids operation hoperation
  · intro store terms callback ending _ timeline steady called
    rw [perform_acquireWith]
    refine trans _ _ _ (Store.acquireWith_grounds (fun _ _ h => h.latest)
      (fun _ _ _ _ h hle grounds => h.stored hle grounds) (fun out => steady (.inl out))
      (fun phrase hheld listed lacks => steady (.inr ⟨phrase, hheld, listed, lacks⟩))
      (fun hempty => called [] timeline (.empty hempty))
      fun hempty interned mid hmid => called _ _ (.interned hempty hmid)) (note _)
  · intro operation managed other timeline steady
    cases managed with
    | acquire _ terms =>
      exact Timeline.act_after trans note lift (acquired (fun out => steady (.inl out))
        (fun phrase hheld listed lacks => steady (.inr ⟨phrase, hheld, listed, lacks⟩))
        fun _ => .pure Accounted.refl _)
    | acquireWith _ terms callback ending => exact absurd rfl (other _ _ _ _)
    | clean batch ids => exact acts (clean_grounds batch ids) timeline
    | storeTerms _ entity terms =>
      exact Timeline.act_after trans note lift (Store.storeTerms_after Accounted.refl
        Accounted.trans (acquired (fun out => steady (.inl out))
          (fun phrase hheld listed lacks => steady (.inr ⟨phrase, hheld, listed, lacks⟩))
          (replaceLinks_grounds entity)) (replaceLinks_grounds entity) (clean_grounds _))
    | deleteTerms store entity =>
      exact acts (store.deleteTerms_within Accounted.trans entity (removeLinks_grounds entity)
        (clean_grounds _)) timeline
    | connect source batch =>
      exact acts (Store.connect_within Accounted.refl Accounted.trans registerTypes_grounds source)
        timeline
    | sync parts => exact replicates _ (fun _ _ h => h.sound.sync parts) timeline
    | lag age => exact replicates _ (fun _ _ h => h.mixture age) timeline

section Cleanup

variable {db : Database} {storage : Storage}

/-- Without terms, nothing is left that could be pointed at. -/
theorem Database.Grounded.no_rows (grounded : db.Grounded fun _ => True) (intact : db.Intact)
    (bare : db.termInLang.rows = []) (level : Level) : (db.table level).rows = [] := by
  have phrases : db.textInLang.rows = [] := by
    refine List.eq_nil_iff_forall_not_mem.mpr fun row hrow => ?_
    obtain ⟨text, htext⟩ := Table.mem_ids.mp (intact.textInLang row hrow)
    have hmeaning : db.meaning? .textInLang row.2 = some ⟨row.2.language, text⟩ :=
      Option.map_eq_some_iff.mpr ⟨text, Table.record?_eq_some_iff.mpr htext, rfl⟩
    obtain ⟨above, habove, _⟩ := Database.referenced_textInLang.mp
      (grounded.textInLang row hrow _ hmeaning trivial)
    simp [bare] at habove
  cases level with
  | termInLang => exact bare
  | textInLang => exact phrases
  | text =>
    refine List.eq_nil_iff_forall_not_mem.mpr fun row hrow => ?_
    obtain ⟨above, habove, _⟩ := Database.referenced_text.mp (grounded.text row hrow)
    simp [phrases] at habove

/-- A cleanup of all terms, when nobody links to one, empties the tables. -/
theorem clean_empties (grounded : storage.primary.Grounded fun _ => True)
    (intact : storage.primary.Intact) (batch : BatchSize) {ids : List RowId}
    (all : ∀ id ∈ storage.primary.termInLang.ids, id ∈ ids ∧ ¬storage.primary.Linked id)
    (level : Level) : (((clean batch ids).run storage).2.primary.table level).rows = [] := by
  have listed : ∀ row ∈ storage.primary.termInLang.rows,
      row.1 ∈ ids ∧ ¬storage.primary.Linked row.1 :=
    fun row hrow => all row.1 (Table.mem_ids.mpr ⟨row.2, hrow⟩)
  unfold Termbase.clean
  split
  next hempty =>
    refine grounded.no_rows intact (List.eq_nil_iff_forall_not_mem.mpr fun row hrow => ?_) level
    have hid := (listed row hrow).1
    rw [List.isEmpty_iff.mp hempty] at hid
    simp at hid
  next =>
    refine (grounded.clean batch ids).no_rows (intact.clean batch ids)
      (List.eq_nil_iff_forall_not_mem.mpr fun row hrow => ?_) level
    obtain ⟨hbefore, stays⟩ := Database.mem_clean_termInLang.mp hrow
    exact stays (listed row hbefore)

end Cleanup

/-- What interning leaves behind can be cleaned up, whether it succeeds or fails, and however far
its replica lags, as long as the storage does not fail. At every moment each text has a text in a
language above it, and each text in a language has a term above it, with one exception: the texts in
languages of a call that has failed for lack of a type code may be without a term. If there has been
no such call, a cleanup of all terms empties the tables once nobody links to them. -/
theorem rows_reclaimable {operations : List Operation} {codes : Table String}
    (managed : ∀ operation ∈ operations, operation.Managed fun _ => True)
    (served : ¬AnyMeets Operation.FailsOnStorage operations
      (Timeline.start codes Database.empty)) :
    let start := Timeline.start codes Database.empty
    let timeline := ((performAll operations).run start).2
    ∀ db ∈ timeline.storage.primary :: timeline.past,
      (∀ row ∈ db.text.rows, ∃ above ∈ db.textInLang.rows, above.2.textId = row.1) ∧
      (∀ row ∈ db.textInLang.rows,
        (∃ above ∈ db.termInLang.rows, above.2.textInLangId = row.1) ∨
          ∃ phrase, db.meaning? .textInLang row.2 = some phrase ∧
            AnyMeets (Operation.LacksCode phrase) operations start) ∧
      ((∀ phrase, ¬AnyMeets (Operation.LacksCode phrase) operations start) →
        ∀ storage : Storage, storage.primary = db → ∀ batch ids,
          (∀ id ∈ db.termInLang.ids, id ∈ ids ∧ ¬db.Linked id) →
          ∀ level, (((clean batch ids).run storage).2.primary.table level).rows = []) := by
  intro start timeline db hdb
  have steady : ¬AnyMeets
      (Operation.Strays fun phrase => ¬AnyMeets (Operation.LacksCode phrase) operations start)
      operations start := by
    intro met
    obtain ⟨inner, moment, out | ⟨phrase, never, lacks⟩, back⟩ := met.place
    · exact served (back _ out)
    · exact never (back _ lacks)
  obtain ⟨ledger, _, always⟩ := (runs_grounded _).performAll operations managed steady
    Ledger.empty (.start codes _)
  have grounded := always.grounded db hdb
  have alwaysIntact := runs_alwaysIntact.performAll operations (fun _ _ => trivial) start
    (.start codes Database.empty)
  have intact : db.Intact := by
    rcases List.mem_cons.mp hdb with rfl | hdb
    · exact alwaysIntact.1
    · exact alwaysIntact.2 db hdb
  refine ⟨fun row hrow => ?_, fun row hrow => ?_, fun never storage hstorage batch ids all => ?_⟩
  · exact Database.referenced_text.mp (grounded.text row hrow)
  · obtain ⟨text, htext⟩ := Table.mem_ids.mp (intact.textInLang row hrow)
    have hmeaning : db.meaning? .textInLang row.2 = some ⟨row.2.language, text⟩ :=
      Option.map_eq_some_iff.mpr ⟨text, Table.record?_eq_some_iff.mpr htext, rfl⟩
    by_cases met : AnyMeets (Operation.LacksCode ⟨row.2.language, text⟩) operations start
    · exact Or.inr ⟨_, hmeaning, met⟩
    · exact Or.inl (Database.referenced_textInLang.mp
        (grounded.textInLang row hrow _ hmeaning met))
  · subst hstorage
    exact clean_empties ⟨grounded.text, fun row hrow phrase hmeaning _ =>
      grounded.textInLang row hrow phrase hmeaning (never phrase)⟩ intact batch all

theorem restoringHistory_managed :
    ∀ operation ∈ restoringHistory, operation.Managed fun _ => True := by
  intro operation h
  rcases List.mem_append.mp h with h | h
  · exact staleHistory_managed trivial operation h
  · rw [List.mem_singleton.mp h]
    exact .acquire trivial _

/-- The first attempt to intern the stale label fails on the primary, and the second one starts
over. -/
theorem rows_reclaimable_restored :
    restoringTimeline.storage.primary.textInLang.rows = [(2, ⟨2, "en"⟩)] ∧
    ∀ level, (((clean laggingStore.batch [1]).run
      restoringTimeline.storage).2.primary.table level).rows = [] := by
  have served : ¬AnyMeets Operation.FailsOnStorage restoringHistory
      (Timeline.start Table.empty Database.empty) := by
    rintro (⟨⟨h⟩⟩ | ⟨⟨⟨⟨⟩⟩⟩ | ⟨⟨⟨⟨⟩⟩⟩ | ⟨⟨⟨h⟩⟩ | ⟨⟨⟩⟩⟩⟩⟩)
    · exact absurd h (by decide +kernel)
    · exact absurd h (by decide +kernel)
  have coded : ∀ phrase, ¬AnyMeets (Operation.LacksCode phrase) restoringHistory
      (Timeline.start Table.empty Database.empty) := by
    have first : ((laggingStore.intern oneLabel).run
      (Timeline.start Table.empty Database.empty).storage).1.isOk = true := by decide +kernel
    have last : ((laggingStore.intern oneLabel).run staleTimeline.storage).1.isOk = true := by
      decide +kernel
    rintro phrase (⟨⟨_, _, h⟩⟩ | ⟨⟨⟨⟨⟩⟩⟩ | ⟨⟨⟨⟨⟩⟩⟩ | ⟨⟨⟨_, _, h⟩⟩ | ⟨⟨⟩⟩⟩⟩⟩)
    · exact absurd first (h ▸ Bool.false_ne_true)
    · exact absurd last (h ▸ Bool.false_ne_true)
  have rows : restoringTimeline.storage.primary.textInLang.rows = [(2, ⟨2, "en"⟩)] := by
    decide +kernel
  have reclaimed :=
    (rows_reclaimable restoringHistory_managed served _ List.mem_cons_self).2.2 coded
  have ids : restoringTimeline.storage.primary.termInLang.ids = [1] := by decide +kernel
  have unlinked : restoringTimeline.storage.primary.unlinked laggingStore.batch [1] = [1] := by
    decide +kernel
  have all : ∀ id ∈ restoringTimeline.storage.primary.termInLang.ids,
      id ∈ [1] ∧ ¬restoringTimeline.storage.primary.Linked id := by
    intro id hid
    rw [ids, ← unlinked] at hid
    exact Database.mem_unlinked.mp hid
  exact ⟨rows, reclaimed restoringTimeline.storage rfl laggingStore.batch [1] all⟩

/-- A store that knows the code of one type only. -/
def synonymStore : Store := ⟨.primary, ⟨none, none, some 1⟩, laggingStore.batch⟩

def uncodedTimeline : Timeline :=
  ((performAll [.acquire synonymStore oneLabel]).run
    (Timeline.start Table.empty Database.empty)).2

/-- The call fails when the text in its language is there, and no term will ever point at it. -/
theorem phrase_left_uncoded :
    uncodedTimeline.storage.primary.textInLang.rows = [(1, ⟨1, "en"⟩)] ∧
      uncodedTimeline.storage.primary.termInLang.rows = [] ∧
      ((clean laggingStore.batch uncodedTimeline.storage.primary.termInLang.ids).run
        uncodedTimeline.storage).2.primary.textInLang.rows = [(1, ⟨1, "en"⟩)] := by
  decide +kernel

end Termbase
