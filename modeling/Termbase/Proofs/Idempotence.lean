import Mathlib.Logic.ExistsUnique
import Termbase.Proofs.Retrying
import Termbase.Proofs.Tracking

namespace Termbase

/-- Nothing has become of the rows but that others stand behind them. -/
def Storage.Appends (storage after : Storage) : Prop :=
  ∀ level, ∃ added,
    (after.primary.table level).rows = (storage.primary.table level).rows ++ added

namespace Storage.Appends

theorem refl (storage : Storage) : storage.Appends storage :=
  fun _ => ⟨[], (List.append_nil _).symm⟩

theorem trans (a b c : Storage) (hab : a.Appends b) (hbc : b.Appends c) : a.Appends c := by
  intro level
  obtain ⟨first, hfirst⟩ := hab level
  obtain ⟨second, hsecond⟩ := hbc level
  exact ⟨first ++ second, by rw [hsecond, hfirst, List.append_assoc]⟩

end Storage.Appends

theorem Database.insertRecords_appends {storage : Storage} {batch : BatchSize} {level : Level}
    {rows : List (level.Record × Option RowId)} {primary : Database}
    (h : storage.primary.insertRecords batch level rows = .ok ((), primary)) :
    storage.Appends { storage with primary := primary } := by
  obtain ⟨_, table, htable, rfl⟩ := insertRecords_ok h
  obtain ⟨added, hadded, _⟩ := (Table.insertAll_extends htable).1.rows
  intro other
  by_cases same : other = level
  · subst same
    rw [table_withTable]
    exact ⟨added, hadded⟩
  · rw [table_withTable_of_ne same]
    exact ⟨[], (List.append_nil _).symm⟩

theorem acquireIds_appends (batch : BatchSize) (source : Source) (level : Level)
    (records : List level.Record) (forced : Option (ForcedIds level)) :
    (acquireIds batch source level records forced).Within Storage.Appends := by
  intro storage
  rcases hrun : (acquireIds batch source level records forced).run storage with ⟨outcome, after⟩
  rcases (acquireIds_acquires hrun).after_cases with rfl | ⟨primary, hinsert, rfl⟩
  · exact .refl after
  · exact Database.insertRecords_appends hinsert

theorem Store.acquire_appends (store : Store) (terms : TermSet) :
    (store.acquire terms).Within Storage.Appends :=
  store.acquire_within .refl .trans fun source restoration =>
    internFrom_within .refl .trans (fun source level records forced _ =>
      acquireIds_appends store.batch source level records forced) source terms restoration

/-- Rows that are added are no rows that were there. -/
theorem Table.not_mem_of_added {ρ : Type} {table larger : Table ρ} {added : List (RowId × ρ)}
    (h : larger.rows = table.rows ++ added) {row : RowId × ρ} (hadded : row ∈ added) :
    row ∉ table.rows := by
  intro hrow
  have ids := larger.ids_nodup
  rw [h, List.map_append, List.nodup_append] at ids
  exact ids.2.2 _ (List.mem_map.mpr ⟨row, hrow, rfl⟩) _ (List.mem_map.mpr ⟨row, hadded, rfl⟩) rfl

/-- What a record stands for, by the rows that are there. -/
def Database.meaning? (db : Database) : (level : Level) → level.Record → Option level.Meaning
  | .text, value => some value
  | .textInLang, record =>
    (db.text.record? record.textId).map fun text => ⟨record.language, text⟩
  | .termInLang, record =>
    (db.textInLang.record? record.textInLangId).bind fun below =>
      (db.text.record? below.textId).map fun text => ⟨record.typeCode, below.language, text⟩

/-- Some row stands for this. -/
def Database.Holds (db : Database) (level : Level) (meaning : level.Meaning) : Prop :=
  ∃ row ∈ (db.table level).rows, db.meaning? level row.2 = some meaning

/-- The later database has all rows of the first one and, behind them, just one row for each thing
that some facts need and that had none. -/
structure Database.Completes (db : Database) (codes : TypeCodes) (facts : List Fact)
    (later : Database) : Prop where
  links : ∀ kind, later.links kind = db.links kind
  rows : ∀ level, ∃ added, (later.table level).rows = (db.table level).rows ++ added ∧
    (∀ row ∈ added, ∃ fact ∈ facts, ∃ meaning, fact.At codes level meaning ∧
      later.meaning? level row.2 = some meaning ∧ ¬db.Holds level meaning) ∧
    ∀ fact ∈ facts, ∀ meaning, fact.At codes level meaning → ¬db.Holds level meaning →
      ∃! row, row ∈ added ∧ later.meaning? level row.2 = some meaning

namespace Ledger

variable {ledger later : Ledger} {db : Database} {storage after : Storage} {codes : TypeCodes}
  {facts : List Fact} {fact : Fact}

/-- A row that is there holds, by the rows that are there, what its id stands for. -/
theorem Explains.meaning?_eq (explained : ledger.Explains db) (intact : db.Intact) {level : Level}
    {row : RowId × level.Record} (hrow : row ∈ (db.table level).rows) :
    db.meaning? level row.2 = ledger.entry level row.1 := by
  cases level with
  | text =>
    obtain ⟨text, hentry, hread⟩ := explained .text row hrow
    exact hread.trans hentry.symm
  | textInLang =>
    obtain ⟨phrase, hentry, hread⟩ := explained .textInLang row hrow
    obtain ⟨value, htext⟩ := Table.mem_ids.mp (intact.textInLang row hrow)
    obtain ⟨text, htextEntry, hvalue⟩ := explained .text _ htext
    cases Option.some.inj hvalue
    obtain ⟨found, hfound, rfl⟩ := Option.map_eq_some_iff.mp hread
    cases Option.some.inj (htextEntry.symm.trans hfound)
    change (db.text.record? row.2.textId).map _ = _
    rw [Table.record?_eq_some_iff.mpr htext, hentry]
    rfl
  | termInLang =>
    have hid : row.1 ∈ db.termInLang.ids := Table.mem_ids.mpr ⟨row.2, hrow⟩
    have hrecord : db.termInLang.record? row.1 = some row.2 := Table.record?_eq_some_iff.mpr hrow
    rw [← storedTerm?_eq explained intact hid]
    unfold Database.storedTerm?
    rw [hrecord, Option.bind_eq_bind, Option.bind_some]
    change (db.textInLang.record? row.2.textInLangId).bind _ = _
    cases db.textInLang.record? row.2.textInLangId with
    | none => rfl
    | some below => cases hbelow : db.text.record? below.textId <;> simp [hbelow]

/-- Below a term that is there, there are rows for its fact at every level. -/
theorem Sound.row_known (sound : ledger.Sound storage) {id : RowId}
    (hid : id ∈ storage.primary.termInLang.ids) (known : ledger.Knows codes fact .termInLang id)
    (level : Level) :
    ∃ row ∈ (storage.primary.table level).rows, ledger.Knows codes fact level row.1 := by
  obtain ⟨term, hterm⟩ := Table.mem_ids.mp hid
  obtain ⟨below, hbelow⟩ := Table.mem_ids.mp (sound.intact.termInLang _ hterm)
  obtain ⟨text, htext⟩ := Table.mem_ids.mp (sound.intact.textInLang _ hbelow)
  have knownBelow := sound.primary.knows_textInLang hterm known
  cases level with
  | text => exact ⟨_, htext, sound.primary.knows_text hbelow knownBelow⟩
  | textInLang => exact ⟨_, hbelow, knownBelow⟩
  | termInLang => exact ⟨_, hterm, known⟩

theorem Sound.row_unique (sound : ledger.Sound storage) {level : Level}
    {row other : RowId × level.Record} (hrow : row ∈ (storage.primary.table level).rows)
    (hother : other ∈ (storage.primary.table level).rows)
    (known : ledger.Knows codes fact level row.1)
    (knownOther : ledger.Knows codes fact level other.1) : row = other := by
  have same : row.1 = other.1 := sound.id_unique known knownOther
    (Table.mem_ids.mpr ⟨_, hrow⟩) (Table.mem_ids.mpr ⟨_, hother⟩)
  obtain ⟨id, record⟩ := row
  obtain ⟨_, otherRecord⟩ := other
  cases same
  rw [Table.record_unique hrow hother]

/-- If the terms of all facts are there in the end, just the missing rows have been added. -/
theorem Adds.completes (sound : ledger.Sound storage)
    (adds : ledger.Adds facts codes storage later after) (appends : storage.Appends after)
    {final : Fact → RowId}
    (known : ∀ fact ∈ facts, later.Knows codes fact .termInLang (final fact))
    (present : ∀ fact ∈ facts, final fact ∈ after.primary.termInLang.ids) :
    storage.primary.Completes codes facts after.primary := by
  have decodes : ∀ level, ∀ row ∈ (after.primary.table level).rows,
      after.primary.meaning? level row.2 = later.entry level row.1 :=
    fun level row hrow => adds.sound.primary.meaning?_eq adds.sound.intact hrow
  refine ⟨adds.grows.links, fun level => ?_⟩
  obtain ⟨added, hrows⟩ := appends level
  have there : ∀ row ∈ added, row ∈ (after.primary.table level).rows := by
    intro row hrow
    rw [hrows]
    exact List.mem_append_right _ hrow
  refine ⟨added, hrows, fun row hrow => ?_, fun fact hfact meaning hat lacked => ?_⟩
  · have fresh := Table.not_mem_of_added hrows hrow
    obtain ⟨fact, hfact, meaning, hentry, hat⟩ :=
      (adds.added level row (there row hrow)).resolve_left fresh
    refine ⟨fact, hfact, meaning, hat, (decodes level row (there row hrow)).trans hentry, ?_⟩
    -- An old row for the same would be this row, as the ledger tells rows apart.
    rintro ⟨old, hold, hmeaning⟩
    rw [sound.primary.meaning?_eq sound.intact hold] at hmeaning
    have knownOld : later.Knows codes fact level old.1 := ⟨meaning, adds.le _ _ _ hmeaning, hat⟩
    have same := adds.sound.row_unique (there row hrow) (adds.grows.rows level old hold)
      ⟨meaning, hentry, hat⟩ knownOld
    exact fresh (same ▸ hold)
  · obtain ⟨row, hrow, knownRow⟩ :=
      adds.sound.row_known (present fact hfact) (known fact hfact) level
    obtain ⟨found, hentry, hfound⟩ := knownRow
    cases hfound.unique hat
    have isNew : row ∈ added := by
      rw [hrows] at hrow
      refine (List.mem_append.mp hrow).resolve_left fun hold => lacked ⟨row, hold, ?_⟩
      rw [sound.primary.meaning?_eq sound.intact hold]
      obtain ⟨before, hbefore, _⟩ := sound.primary level row hold
      rw [hbefore, ← hentry]
      exact (adds.le _ _ _ hbefore).symm
    refine ⟨row, ⟨isNew, (decodes level row (there row isNew)).trans hentry⟩, ?_⟩
    rintro other ⟨hother, hmeaning⟩
    rw [decodes level other (there other hother)] at hmeaning
    exact adds.sound.row_unique (there other hother) (there row isNew) ⟨_, hmeaning, hat⟩
      ⟨_, hentry, hat⟩

/-- What comes of interning: ids that are there and stand for the facts. -/
theorem leads_acquire {store : Store} {terms : TermSet} (sound : ledger.Sound storage) :
    ledger.Leads terms.facts store.codes storage (store.acquire terms)
      fun later acquired after => ∃ final : Fact → RowId,
        acquired.ids = (if terms.isEmpty then TermMap.empty else terms.withIds final) ∧
        (∀ fact ∈ terms.facts, later.Knows store.codes fact .termInLang (final fact)) ∧
        ∀ fact ∈ terms.facts, final fact ∈ after.primary.termInLang.ids := by
  unfold Store.acquire Store.acquireWith
  split
  next hempty =>
    have hnil := TermSet.facts_eq_nil hempty
    refine leads_pure sound ⟨fun _ => 0, rfl, ?_, ?_⟩ <;> simp [hnil]
  next =>
    refine leads_bind (leads_intern sound) fun later interned between adds h => ?_
    obtain ⟨idOf, names, _⟩ := h
    refine leads_weaken (leads_reconcile adds.sound names) fun last acquired after _ h => ?_
    obtain ⟨final, settles⟩ := h
    exact ⟨final, settles.names.ids, settles.names.known, settles.present⟩

/-- Interning facts whose terms are there adds no row. -/
theorem Adds.same_rows (sound : ledger.Sound storage)
    (adds : ledger.Adds facts codes storage later after) (appends : storage.Appends after)
    {final : Fact → RowId}
    (known : ∀ fact ∈ facts, ledger.Knows codes fact .termInLang (final fact))
    (present : ∀ fact ∈ facts, final fact ∈ storage.primary.termInLang.ids) (level : Level) :
    (after.primary.table level).rows = (storage.primary.table level).rows := by
  obtain ⟨added, hrows⟩ := appends level
  have none_added : added = [] := by
    refine List.eq_nil_iff_forall_not_mem.mpr fun row hrow => ?_
    have fresh := Table.not_mem_of_added hrows hrow
    have there : row ∈ (after.primary.table level).rows := by
      rw [hrows]
      exact List.mem_append_right _ hrow
    obtain ⟨fact, hfact, knownRow⟩ := (adds.added level row there).resolve_left fresh
    obtain ⟨old, hold, knownOld⟩ := sound.row_known (present fact hfact) (known fact hfact) level
    have same := adds.sound.row_unique there (adds.grows.rows level old hold) knownRow
      (knownOld.mono adds.le)
    exact fresh (same ▸ hold)
  rw [hrows, none_added, List.append_nil]

theorem Sound.synced (sound : ledger.Sound storage) (parts : List Part) :
    ledger.Sound (storage.sync parts) :=
  ⟨sound.primary, sound.sync parts, sound.bounded, sound.intact⟩

end Ledger

/-- Interning twice is interning once, whatever has been done before and however far the replica
lags. The first call leaves all rows as they are and adds just one for each kept text, each text in
a language and each such text as a term of its type that has none. A second call right after it, of
this store or of another one with the same type codes, and with the replica as it is or brought up
to date in any parts, gives the same ids and leaves all rows and links as they are. -/
theorem acquire_idempotent {operations : List Operation} {codes : Table String}
    {timeline : Timeline} {replica : Database} {store : Store} {terms : TermSet}
    {acquired : Acquired} {between : Storage}
    (regular : ∀ operation ∈ operations, operation.Regular)
    (reached : ((performAll operations).run (Timeline.start codes Database.empty)).2 = timeline)
    (held : timeline.HasHeld replica) (cover : store.codes.Cover terms)
    (run : (store.acquire terms).run { timeline.storage with replica := replica } =
      (.ok acquired, between)) :
    timeline.storage.primary.Completes store.codes terms.facts between.primary ∧
    ∀ (other : Store) (parts : List Part) (outcome : Except Failure Acquired) (last : Storage),
      other.codes = store.codes →
      (other.acquire terms).run (between.sync parts) = (outcome, last) →
      ¬StorageFails outcome →
      ∃ again, outcome = .ok again ∧ again.ids = acquired.ids ∧
        (∀ level, (last.primary.table level).rows = (between.primary.table level).rows) ∧
        ∀ kind, last.primary.links kind = between.primary.links kind := by
  obtain ⟨ledger, recalls⟩ := run_recalled regular codes reached held
  have sound : ledger.Sound { timeline.storage with replica := replica } := recalls.sound
  obtain ⟨later, adds, holds⟩ := @Ledger.leads_acquire ledger _ store terms sound
  have appends := store.acquire_appends terms { timeline.storage with replica := replica }
  rw [run] at adds holds appends
  obtain ⟨final, hids, known, present⟩ := holds acquired rfl
  have completes := adds.completes sound appends known present
  refine ⟨completes, fun other parts outcome last same again served => ?_⟩
  have soundBetween := adds.sound.synced parts
  obtain ⟨latest, adds', holds'⟩ := @Ledger.leads_acquire later _ other terms soundBetween
  have appends' := other.acquire_appends terms (between.sync parts)
  rw [again, same] at adds' holds'
  rw [again] at appends'
  have succeeds := @Store.acquire_yields other terms (between.sync parts) (same ▸ cover)
  cases outcome with
  | error failure => exact absurd (succeeds.error again).2 served
  | ok result =>
    obtain ⟨refound, hagain, known', present'⟩ := holds' result rfl
    have rows := adds'.same_rows soundBetween appends' known present
    refine ⟨result, rfl, ?_, rows, adds'.grows.links⟩
    have equal : ∀ fact ∈ terms.facts, refound fact = final fact := by
      intro fact hfact
      have kept : final fact ∈ (last.primary.table .termInLang).ids :=
        adds'.grows.ids (present fact hfact)
      exact adds'.sound.id_unique (known' fact hfact) ((known fact hfact).mono adds'.le)
        (present' fact hfact) kept
    rw [hagain, hids, TermSet.withIds_congr equal]

def repeatedRun : Except Failure Acquired × Storage :=
  (laggingStore.acquire oneLabel).run staleTimeline.storage

/-- The replica still has the rows that the label had before it was cleaned up. -/
theorem acquire_idempotent_stale :
    repeatedRun.2.primary.text.rows = [(2, "cat")] ∧
    staleTimeline.storage.primary.Completes laggingStore.codes oneLabel.facts
      repeatedRun.2.primary ∧
    ∃ again last, (laggingStore.acquire oneLabel).run (repeatedRun.2.sync []) = (.ok again, last) ∧
      again.ids = TermMap.empty.put .label "en" [1] ∧
      last.primary.text.rows = [(2, "cat")] := by
  have ran : repeatedRun = (.ok ⟨TermMap.empty.put .label "en" [1], none⟩, repeatedRun.2) :=
    Prod.ext (by decide +kernel) rfl
  have text : repeatedRun.2.primary.text.rows = [(2, "cat")] := by decide +kernel
  obtain ⟨completes, again⟩ := acquire_idempotent staleHistory_regular rfl staleTimeline_hasHeld
    oneLabel_cover ran
  have served : ¬StorageFails ((laggingStore.acquire oneLabel).run (repeatedRun.2.sync [])).1 := by
    decide +kernel
  obtain ⟨found, hfound, hids, hrows, _⟩ := again laggingStore [] _ _ rfl rfl served
  exact ⟨text, completes, found, _, Prod.ext hfound rfl, hids, (hrows .text).trans text⟩

end Termbase
