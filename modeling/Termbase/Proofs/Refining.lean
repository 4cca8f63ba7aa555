import Termbase.Proofs.Accounting
import Termbase.Proofs.Tracking

namespace Termbase

theorem TermStore.clean_congr {state : TermStore} {a b : Set Fact}
    (h : ∀ fact, state.Unheld fact → (fact ∈ a ↔ fact ∈ b)) : state.clean a = state.clean b := by
  unfold clean
  refine congrArg (TermStore.mk · state.links) (Set.ext fun fact => ?_)
  constructor
  · exact fun hfact => ⟨hfact.1, fun gone => hfact.2 ⟨(h fact gone.2).mpr gone.1, gone.2⟩⟩
  · exact fun hfact => ⟨hfact.1, fun gone => hfact.2 ⟨(h fact gone.2).mp gone.1, gone.2⟩⟩

theorem TermStore.clean_empty (state : TermStore) : state.clean ∅ = state := by
  unfold clean
  refine congrArg (TermStore.mk · state.links) (Set.ext fun fact => ?_)
  exact ⟨fun hfact => hfact.1, fun hfact => ⟨hfact, fun gone => gone.1⟩⟩

def Database.relinked (db : Database) (entity : EntityId) (wanted : List RowId) : Database :=
  db.withLinks entity.kind ((db.links entity.kind).replace entity.number wanted)

theorem Database.mem_relinked {db : Database} {entity other : EntityId} {wanted : List RowId}
    {id : RowId} :
    (other.number, id) ∈ ((db.relinked entity wanted).links other.kind).pairs ↔
      if other = entity then id ∈ wanted
      else (other.number, id) ∈ (db.links other.kind).pairs := by
  obtain ⟨kind, number⟩ := entity
  obtain ⟨otherKind, otherNumber⟩ := other
  unfold relinked
  by_cases sameKind : otherKind = kind
  · subst sameKind
    simp only [links_withLinks, Links.mem_replace, EntityId.mk.injEq, true_and]
    by_cases same : otherNumber = number <;> simp [same]
  · simp only [links_withLinks_of_ne sameKind, EntityId.mk.injEq, sameKind, false_and, if_false]

theorem replaceLinks_run (entity : EntityId) (ids : List RowId) (storage : Storage) :
    (replaceLinks entity ids).run storage =
      (.ok (), { storage with primary := storage.primary.relinked entity ids }) := rfl

theorem Store.storeTerms_ok {store : Store} {entity : EntityId} {terms : TermSet}
    {storage after : Storage} {acquired : Acquired}
    (run : (store.storeTerms entity terms).run storage = (.ok acquired, after)) :
    ∃ between called report,
      (store.acquireWith terms (replaceLinks entity)).run storage = (.ok acquired, between) ∧
      (acquired.mismatch = none ∧ called = between ∨
        called = { between with
          primary := between.primary.relinked entity acquired.ids.ids }) ∧
      (clean store.batch (((storage.primary.links entity.kind).idsOf entity.number).filter
        fun id => id ∉ acquired.ids.ids)).run called = (.ok report, after) := by
  unfold storeTerms at run
  obtain ⟨previous, start, hprevious, run⟩ := Action.bind_ok run
  obtain ⟨hprevious, hstart⟩ := Prod.mk.inj hprevious
  cases Except.ok.inj hprevious
  cases hstart
  obtain ⟨found, between, hacquired, run⟩ := Action.bind_ok run
  split at run
  next =>
    obtain ⟨_, called, hcalled, run⟩ := Action.bind_ok run
    cases (Prod.mk.inj hcalled).2
    obtain ⟨report, last, hclean, run⟩ := Action.bind_ok run
    obtain ⟨hfound, hlast⟩ := Prod.mk.inj run
    cases Except.ok.inj hfound
    cases hlast
    exact ⟨between, _, report, hacquired, Or.inr rfl, hclean⟩
  next hnone =>
    obtain ⟨report, last, hclean, run⟩ := Action.bind_ok run
    obtain ⟨hfound, hlast⟩ := Prod.mk.inj run
    cases Except.ok.inj hfound
    cases hlast
    have hnone : acquired.mismatch = none := by simpa using hnone
    exact ⟨between, between, report, hacquired, Or.inl ⟨hnone, rfl⟩, hclean⟩

namespace Ledger

theorem Relinks.of_links {db mid after : Database} {entity : EntityId} {wanted : List RowId}
    (before : ∀ kind, mid.links kind = db.links kind)
    (links : ∀ kind, after.links kind = (mid.relinked entity wanted).links kind) :
    Relinks db entity wanted after := by
  intro other id
  rw [links, Database.mem_relinked, before]

/-- Only the last links of an entity count. -/
theorem Relinks.again {db mid : Database} {entity : EntityId} {first : List RowId}
    (h : Relinks db entity first mid) (wanted : List RowId) :
    Relinks db entity wanted (mid.relinked entity wanted) := by
  intro other id
  rw [Database.mem_relinked]
  split
  next => rfl
  next hother => rw [h other id, if_neg hother]

variable {ledger later : Ledger} {storage after : Storage} {state : TermStore}
  {codes : TypeCodes} {facts : List Fact} {batch : BatchSize}

theorem Sound.relinked (sound : ledger.Sound storage) (entity : EntityId) (ids : List RowId) :
    ledger.Sound { storage with primary := storage.primary.relinked entity ids } :=
  sound.withLinks _ _

theorem Tracks.cleaned (sound : ledger.Sound storage)
    (tracks : ledger.Tracks codes storage.primary state) {ids : List RowId}
    {report : CleanupReport}
    (run : (Termbase.clean batch ids).run storage = (.ok report, after)) :
    ledger.Sound after ∧ ledger.Tracks codes after.primary
      (state.clean (factsOf ledger codes storage.primary ids)) := by
  unfold Termbase.clean at run
  split at run
  next hempty =>
    cases (Prod.mk.inj run).2
    have hnone : factsOf ledger codes storage.primary ids = ∅ := by
      rw [List.isEmpty_iff.mp hempty]
      refine Set.ext fun fact => ⟨?_, fun h => absurd h (Set.notMem_empty fact)⟩
      rintro ⟨id, hid, _⟩
      simp at hid
    rw [hnone, TermStore.clean_empty]
    exact ⟨sound, tracks⟩
  next =>
    cases (Prod.mk.inj run).2
    exact ⟨sound.clean batch ids, tracks.clean sound batch ids⟩

/-- Cleaning up the ids that an entity has ceased to link to, once it links to the ids of the facts
that it is to hold. -/
theorem Tracks.store (sound : ledger.Sound storage)
    (tracks : ledger.Tracks codes storage.primary state) (distinct : codes.Distinct)
    {between : Storage} (soundLater : later.Sound between)
    (gains : ledger.Gains facts codes storage.primary later between.primary)
    {final : Fact → RowId}
    (named : ∀ fact ∈ facts, later.Knows codes fact .termInLang (final fact))
    (there : ∀ fact ∈ facts, final fact ∈ between.primary.termInLang.ids) {entity : EntityId}
    {wanted removed : List RowId} (listed : ∀ id, id ∈ wanted ↔ ∃ fact ∈ facts, final fact = id)
    (relinks : Relinks storage.primary entity wanted between.primary)
    (dropped : ∀ id, id ∈ removed ↔
      (entity.number, id) ∈ (storage.primary.links entity.kind).pairs ∧ id ∉ wanted)
    {report : CleanupReport}
    (run : (Termbase.clean batch removed).run between = (.ok report, after)) :
    later.Sound after ∧
      later.Tracks codes after.primary (state.store entity { fact | fact ∈ facts }) := by
  have holds := tracks.hold sound.primary distinct gains named there listed relinks
  obtain ⟨soundAfter, tracksAfter⟩ := holds.cleaned soundLater run
  refine ⟨soundAfter, ?_⟩
  unfold TermStore.store
  rw [← TermStore.clean_congr (a := factsOf later codes between.primary removed)]
  · exact tracksAfter
  · intro fact unheld
    have unwanted : fact ∉ facts := by
      have hentity := unheld entity
      change fact ∉ Function.update state.links entity { fact | fact ∈ facts } entity at hentity
      rwa [Function.update_self] at hentity
    rw [tracks.gained_links sound.primary gains]
    constructor
    · rintro ⟨id, hid, _, known⟩
      exact ⟨id, ((dropped id).mp hid).1, known⟩
    · rintro ⟨id, hpair, known⟩
      have hid : id ∈ (storage.primary.table .termInLang).ids := tracks.linked _ _ hpair
      refine ⟨id, (dropped id).mpr ⟨hpair, fun hwanted => unwanted ?_⟩, gains.ids hid, known⟩
      obtain ⟨other, hother, rfl⟩ := (listed id).mp hwanted
      rw [known.fact_unique distinct (named other hother)]
      exact hother

/-- What an interning leads to whose callback does no more than relink. -/
theorem Sound.acquireWith (sound : ledger.Sound storage) {store : Store} {terms : TermSet}
    (distinct : store.codes.Distinct) (some_terms : ¬terms.isEmpty = true)
    {callback : List RowId → Action Storage Unit} {relink : List RowId → Database → Database}
    (called : ∀ ids storage, (callback ids).run storage =
      (.ok (), { storage with primary := relink ids storage.primary }))
    (tables : ∀ ids db level, (relink ids db).table level = db.table level)
    (relinked : ∀ (ledger : Ledger) storage ids, ledger.Sound storage →
      ledger.Sound { storage with primary := relink ids storage.primary })
    {acquired : Acquired}
    (run : (store.acquireWith terms callback).run storage = (.ok acquired, after)) :
    ∃ later : Ledger, ∃ final first, later.Sound after ∧
      ledger.Gains terms.facts store.codes storage.primary later after.primary ∧
      later.Names store.codes terms acquired.ids final ∧
      (∀ fact ∈ terms.facts, final fact ∈ after.primary.termInLang.ids) ∧
      (acquired.mismatch = none → acquired.ids = first) ∧
      ∃ mid : Database, (∀ kind, mid.links kind = storage.primary.links kind) ∧
        ∀ kind, after.primary.links kind = (relink first.ids mid).links kind := by
  have within : ∀ ids, (callback ids).Within (Accounted Sound) := by
    intro ids storage ledger sound
    rw [called]
    exact ⟨ledger, le_refl ledger, relinked ledger storage ids sound⟩
  obtain ⟨course⟩ := @Store.acquireWith_course Storage _ Sound (fun _ _ h => h)
    (fun _ _ _ _ _ _ h => h) store terms callback within some_terms ledger storage after sound
    acquired run
  have hcalls := course.calls
  rw [called] at hcalls
  have hcalled := (Prod.mk.inj hcalls).2
  have adds := course.adds
  have restores := course.restores
  have settles := course.settles
  rw [← hcalled] at restores
  have gains := (adds.gains.trans (Gains.of_tables course.le terms.facts store.codes
    (tables course.interned.ids.ids course.mid.primary))).trans restores.gains
  refine ⟨course.later, course.final, course.interned.ids, restores.sound, gains, settles.names,
    settles.present, fun hnone => ?_, course.mid.primary, adds.grows.links, restores.grows.links⟩
  rw [settles.names.ids, course.names.ids]
  exact TermSet.withIds_congr (settles.restored distinct hnone)

theorem Tracks.acquires (sound : ledger.Sound storage) {store : Store}
    (tracks : ledger.Tracks store.codes storage.primary state) (distinct : store.codes.Distinct)
    {terms : TermSet} {acquired : Acquired}
    (run : (store.acquire terms).run storage = (.ok acquired, after)) :
    ∃ later : Ledger, later.Sound after ∧
      later.Tracks store.codes after.primary (state.acquire { fact | fact ∈ terms.facts }) := by
  by_cases hempty : terms.isEmpty = true
  · have hafter : storage = after := by
      unfold Store.acquire Store.acquireWith at run
      rw [if_pos hempty] at run
      exact (Prod.mk.inj run).2
    subst hafter
    have named : ∀ fact ∈ terms.facts, ledger.Knows store.codes fact .termInLang 0 := by
      rw [TermSet.facts_eq_nil hempty]
      simp
    have there : ∀ fact ∈ terms.facts, 0 ∈ storage.primary.termInLang.ids := by
      rw [TermSet.facts_eq_nil hempty]
      simp
    have gains := @Gains.of_tables ledger ledger storage.primary storage.primary (le_refl ledger)
      terms.facts store.codes fun level => rfl
    exact ⟨ledger, sound, tracks.acquire sound.primary gains named there fun _ => rfl⟩
  · have interned := @Sound.acquireWith ledger storage after sound store terms distinct hempty
      (fun _ => pure ()) (fun _ db => db) (fun _ _ => rfl) (fun _ _ _ => rfl) (fun _ _ _ h => h)
      acquired run
    obtain ⟨later, final, first, soundAfter, gains, names, present, _, mid, hmid, hlinks⟩ :=
      interned
    exact ⟨later, soundAfter, tracks.acquire sound.primary gains names.known present
      fun kind => (hlinks kind).trans (hmid kind)⟩

/-- Interning the terms of an entity, which it then links to. -/
theorem Sound.acquireRelinking (sound : ledger.Sound storage) {store : Store} {entity : EntityId}
    {terms : TermSet} (distinct : store.codes.Distinct) {acquired : Acquired}
    (run : (store.acquireWith terms (replaceLinks entity)).run storage = (.ok acquired, after)) :
    ∃ later : Ledger, ∃ final : Fact → RowId, later.Sound after ∧
      ledger.Gains terms.facts store.codes storage.primary later after.primary ∧
      acquired.ids = (if terms.isEmpty then TermMap.empty else terms.withIds final) ∧
      (∀ fact ∈ terms.facts, later.Knows store.codes fact .termInLang (final fact)) ∧
      (∀ fact ∈ terms.facts, final fact ∈ after.primary.termInLang.ids) ∧
      ∃ first : TermIds, Relinks storage.primary entity first.ids after.primary ∧
        (acquired.mismatch = none → acquired.ids = first) := by
  by_cases hempty : terms.isEmpty = true
  · unfold Store.acquireWith at run
    rw [if_pos hempty] at run
    obtain ⟨_, between, hcalled, run⟩ := Action.bind_ok run
    cases (Prod.mk.inj hcalled).2
    obtain ⟨hacquired, hafter⟩ := Prod.mk.inj run
    cases Except.ok.inj hacquired
    cases hafter
    have hnil := TermSet.facts_eq_nil hempty
    refine ⟨ledger, fun _ => 0, sound.relinked entity [],
      Gains.of_tables (le_refl ledger) terms.facts store.codes
        fun level => Database.table_withLinks _ _ _ level,
      (if_pos hempty).symm, ?_, ?_, TermMap.empty,
      Relinks.of_links (fun _ => rfl) fun _ => rfl, fun _ => rfl⟩
    · simp [hnil]
    · simp [hnil]
  · have interned := @Sound.acquireWith ledger storage after sound store terms distinct hempty
      (replaceLinks entity) (fun ids db => db.relinked entity ids) (replaceLinks_run entity)
      (fun _ _ level => Database.table_withLinks _ _ _ level)
      (fun _ _ ids sound => sound.relinked entity ids) acquired run
    obtain ⟨later, final, first, soundAfter, gains, names, present, hfirst, mid, hmid, hlinks⟩ :=
      interned
    exact ⟨later, final, soundAfter, gains, names.ids.trans (if_neg hempty).symm, names.known,
      present, first, Relinks.of_links hmid hlinks, hfirst⟩

/-- What comes of storing the terms of an entity, but for the cleanup: the facts have the ids that
are given back, and the entity links to just these. -/
structure Stores (ledger : Ledger) (codes : TypeCodes) (storage : Storage) (entity : EntityId)
    (terms : TermSet) (given : TermIds) (later : Ledger) (called : Storage)
    (final : Fact → RowId) : Prop where
  sound : later.Sound called
  gains : ledger.Gains terms.facts codes storage.primary later called.primary
  ids : given = if terms.isEmpty then TermMap.empty else terms.withIds final
  known : ∀ fact ∈ terms.facts, later.Knows codes fact .termInLang (final fact)
  present : ∀ fact ∈ terms.facts, final fact ∈ called.primary.termInLang.ids
  relinks : Relinks storage.primary entity given.ids called.primary

theorem Stores.mem_ids {entity : EntityId} {terms : TermSet} {given : TermIds} {called : Storage}
    {final : Fact → RowId}
    (stores : ledger.Stores codes storage entity terms given later called final) (id : RowId) :
    id ∈ given.ids ↔ ∃ fact ∈ terms.facts, final fact = id := by
  rw [stores.ids]
  split
  next hempty =>
    simp [TermSet.facts_eq_nil hempty, TermIds.ids, TermMap.values, TermMap.entries_empty,
      ascending]
  next => exact TermSet.mem_ids_withIds

theorem Sound.storesTerms (sound : ledger.Sound storage) {store : Store}
    (distinct : store.codes.Distinct) {entity : EntityId} {terms : TermSet} {acquired : Acquired}
    (run : (store.storeTerms entity terms).run storage = (.ok acquired, after)) :
    ∃ later called final report,
      ledger.Stores store.codes storage entity terms acquired.ids later called final ∧
      (Termbase.clean store.batch (((storage.primary.links entity.kind).idsOf entity.number).filter
        fun id => id ∉ acquired.ids.ids)).run called = (.ok report, after) := by
  obtain ⟨between, called, report, hacquired, hcalled, hclean⟩ := Store.storeTerms_ok run
  obtain ⟨later, final, soundBetween, gains, hids, named, present, first, relinks, hfirst⟩ :=
    sound.acquireRelinking distinct hacquired
  have hsound : later.Sound called := by
    rcases hcalled with ⟨_, rfl⟩ | rfl
    · exact soundBetween
    · exact soundBetween.relinked _ _
  have tables : ∀ level, called.primary.table level = between.primary.table level := by
    intro level
    rcases hcalled with ⟨_, rfl⟩ | rfl
    · rfl
    · exact Database.table_withLinks _ _ _ level
  -- Without a mismatch the callback has set the right links; with one they are written again.
  have relinked : Relinks storage.primary entity acquired.ids.ids called.primary := by
    rcases hcalled with ⟨hnone, rfl⟩ | rfl
    · rw [hfirst hnone]
      exact relinks
    · exact relinks.again _
  have there : ∀ fact ∈ terms.facts, final fact ∈ called.primary.termInLang.ids := by
    intro fact hfact
    have hthere : final fact ∈ (between.primary.table .termInLang).ids := present fact hfact
    rwa [← tables] at hthere
  have gained := gains.trans (Gains.of_tables (le_refl later) terms.facts store.codes tables)
  exact ⟨later, called, final, report, ⟨hsound, gained, hids, named, there, relinked⟩, hclean⟩

theorem Tracks.storesTerms (sound : ledger.Sound storage) {store : Store}
    (tracks : ledger.Tracks store.codes storage.primary state) (distinct : store.codes.Distinct)
    {entity : EntityId} {terms : TermSet} {acquired : Acquired}
    (run : (store.storeTerms entity terms).run storage = (.ok acquired, after)) :
    ∃ later : Ledger, later.Sound after ∧
      later.Tracks store.codes after.primary (state.store entity { fact | fact ∈ terms.facts }) := by
  obtain ⟨later, called, final, report, stores, hclean⟩ := sound.storesTerms distinct run
  refine ⟨later, tracks.store sound distinct stores.sound stores.gains stores.known stores.present
    stores.mem_ids stores.relinks (fun id => ?_) hclean⟩
  rw [List.mem_filter, decide_eq_true_eq, Links.mem_idsOf]

theorem Tracks.deletesTerms (sound : ledger.Sound storage) {store : Store}
    (tracks : ledger.Tracks store.codes storage.primary state) (distinct : store.codes.Distinct)
    {entity : EntityId} {report : CleanupReport}
    (run : (store.deleteTerms entity).run storage = (.ok report, after)) :
    ledger.Sound after ∧ ledger.Tracks store.codes after.primary (state.store entity ∅) := by
  unfold Store.deleteTerms at run
  obtain ⟨previous, between, hprevious, run⟩ := Action.bind_ok run
  obtain ⟨hprevious, hbetween⟩ := Prod.mk.inj hprevious
  cases Except.ok.inj hprevious
  cases hbetween
  have hnone : ({ fact | fact ∈ ([] : List Fact) } : Set Fact) = ∅ := by simp
  have relinks : Relinks storage.primary entity [] (storage.primary.relinked entity []) :=
    Relinks.of_links (fun _ => rfl) fun _ => rfl
  have named : ∀ fact ∈ ([] : List Fact), ledger.Knows store.codes fact .termInLang 0 := by simp
  rw [← hnone]
  refine tracks.store sound distinct (sound.relinked entity [])
    (Gains.of_tables (le_refl ledger) [] store.codes
      fun level => Database.table_withLinks _ _ _ level)
    named (by simp) (by simp) relinks (fun id => ?_) run
  rw [Links.mem_idsOf]
  simp

end Ledger

end Termbase
