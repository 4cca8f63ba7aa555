import Termbase.Proofs.Histories

namespace Termbase

section Acquired

variable {ledger : Ledger} {timeline after : Timeline} {store : Store} {terms : TermSet}
  {callback : List RowId → List Operation} {ending : Except Failure Unit} {acquired : Acquired}

theorem doing_accounted (regular : ∀ ids, ∀ operation ∈ callback ids, operation.Regular)
    (ending : Except Failure Unit) (ids : List RowId) :
    (doing callback ending ids).Within (Accounted Ledger.Recalls) := by
  intro timeline ledger recalls
  exact runs_accounted.performAll (callback ids) (regular ids) timeline.noted ledger recalls.noted

theorem acquired_course (recalls : ledger.Recalls timeline) (some_terms : ¬terms.isEmpty = true)
    (regular : ∀ ids, ∀ operation ∈ callback ids, operation.Regular)
    (run : (store.acquireWith terms (doing callback ending)).run timeline = (.ok acquired, after)) :
    Nonempty (store.Course terms (doing callback ending) ledger timeline acquired after) :=
  Store.acquireWith_course (fun _ _ h => h.sound) (fun _ _ _ _ h hle sound => h.stored hle sound)
    (doing_accounted regular ending) some_terms recalls run

/-- The ids of a term set decode, on the primary, to the texts at their places. -/
theorem Ledger.Settles.decodes {later : Ledger} {idOf final : Fact → RowId} {called : Storage}
    {after : Storage} (sound : later.Sound after)
    (settles : later.Settles store.codes terms idOf called acquired after final)
    {type : TermType} {language text : String} {place : Nat}
    (h : terms.at? type language place = some text) :
    ∃ id code, acquired.ids.at? type language place = some id ∧
      store.codes.get? type = some code ∧
      after.primary.storedTerm? id = some ⟨code, language, Text.kept text⟩ := by
  have hfact := TermSet.mem_facts_of_at? h
  obtain ⟨term, hentry, hcode, hlanguage, htext⟩ := settles.names.known _ hfact
  refine ⟨final ⟨type, language, Text.kept text⟩, term.code, ?_, hcode, ?_⟩
  · rw [settles.names.ids, TermSet.at?_withIds, h]
    rfl
  · have hterm : term = ⟨term.code, language, Text.kept text⟩ := by
      cases term
      simp_all only
    rw [Ledger.storedTerm?_eq sound.primary sound.intact (settles.present _ hfact), hentry]
    exact congrArg some hterm

end Acquired

/-- What an interning gives back is right, whatever has been done before, however far its replica
lags, and whatever its callback does meanwhile: the ids have the shape of the term set, each one is
on the primary and decodes to the text at its place, and places have the same id exactly when they
have the same type, language and kept text. -/
theorem acquired_ids_decode {operations : List Operation} {codes : Table String}
    {timeline after : Timeline} {replica : Database} {store : Store} {terms : TermSet}
    {callback : List RowId → List Operation} {ending : Except Failure Unit} {acquired : Acquired}
    (regular : ∀ operation ∈ operations, operation.Regular)
    (reached : ((performAll operations).run (Timeline.start codes Database.empty)).2 = timeline)
    (held : timeline.HasHeld replica) (distinct : store.codes.Distinct)
    (some_terms : ¬terms.isEmpty = true)
    (regular_callback : ∀ ids, ∀ operation ∈ callback ids, operation.Regular)
    (run : (store.acquireWith terms (doing callback ending)).run
      { timeline with storage := { timeline.storage with replica := replica } } =
        (.ok acquired, after)) :
    acquired.ids.shape = terms.shape ∧
    (∀ type language place text, terms.at? type language place = some text →
      ∃ id code, acquired.ids.at? type language place = some id ∧
        store.codes.get? type = some code ∧
        after.storage.primary.storedTerm? id = some ⟨code, language, Text.kept text⟩) ∧
    ∀ type language place text, terms.at? type language place = some text →
      ∀ type' language' place' text', terms.at? type' language' place' = some text' →
        (acquired.ids.at? type language place = acquired.ids.at? type' language' place' ↔
          type = type' ∧ language = language' ∧ Text.kept text = Text.kept text') := by
  obtain ⟨ledger, recalls⟩ := run_recalled regular codes reached held
  obtain ⟨course⟩ := acquired_course recalls some_terms regular_callback run
  have settles := course.settles
  have sound := course.restores.sound
  refine ⟨?_, fun type language place text h => settles.decodes sound h, ?_⟩
  · rw [settles.names.ids]
    exact TermSet.shape_withIds terms course.final
  · intro type language place text h type' language' place' text' h'
    rw [settles.names.ids, TermSet.at?_withIds, TermSet.at?_withIds, h, h', Option.map_some,
      Option.map_some, Option.some.injEq]
    constructor
    · intro same
      obtain ⟨term, hentry, hat⟩ := settles.names.known _ (TermSet.mem_facts_of_at? h)
      obtain ⟨term', hentry', hat'⟩ := settles.names.known _ (TermSet.mem_facts_of_at? h')
      rw [same, hentry'] at hentry
      cases Option.some.inj hentry
      have hfact := hat.fact_unique distinct hat'
      exact ⟨congrArg Fact.type hfact, congrArg Fact.language hfact, congrArg Fact.text hfact⟩
    · rintro ⟨rfl, rfl, hkept⟩
      rw [hkept]

/-- A store that reads the replica. -/
def laggingStore : Store := ⟨.replica, ⟨some 1, some 2, some 3⟩, ⟨2, by decide⟩⟩

def oneLabel : TermSet := TermMap.empty.put .label "en" ["cat"]

def cleaningUp (ids : List RowId) : List Operation := [.clean laggingStore.batch ids]

/-- A label is interned and cleaned up again, which the replica does not hear of. -/
def staleHistory : List Operation :=
  [.acquire laggingStore oneLabel, .sync Part.all, .clean laggingStore.batch [1]]

def staleTimeline : Timeline :=
  ((performAll staleHistory).run (Timeline.start Table.empty Database.empty)).2

def staleRun : Except Failure Acquired × Timeline :=
  (laggingStore.acquireWith oneLabel (doing cleaningUp (.ok ()))).run staleTimeline

theorem laggingStore_distinct : laggingStore.codes.Distinct := by
  intro first second code hfirst hsecond
  have same := hfirst.trans hsecond.symm
  cases first <;> cases second <;> first | rfl | exact absurd same (by decide)

theorem cleaningUp_regular (ids : List RowId) :
    ∀ operation ∈ cleaningUp ids, operation.Regular := by
  intro operation h
  rw [List.mem_singleton.mp h]
  exact .clean _ _

theorem staleHistory_regular : ∀ operation ∈ staleHistory, operation.Regular := by
  intro operation h
  simp only [staleHistory, List.mem_cons, List.not_mem_nil, or_false] at h
  rcases h with rfl | rfl | rfl
  · exact .acquire _ _
  · exact .sync _
  · exact .clean _ _

theorem staleTimeline_hasHeld : staleTimeline.HasHeld staleTimeline.storage.replica := by
  intro level
  cases level <;> decide +kernel

/-- The stale id comes back, although the callback cleans it up once more. -/
theorem staleRun_ok : staleRun = (.ok ⟨TermMap.empty.put .label "en" [1], none⟩, staleRun.2) :=
  Prod.ext (by decide +kernel) rfl

theorem acquired_ids_decode_stale :
    staleRun.2.storage.primary.storedTerm? 1 = some ⟨1, "en", "cat"⟩ := by
  have decodes := (acquired_ids_decode staleHistory_regular rfl staleTimeline_hasHeld
    laggingStore_distinct (by decide) cleaningUp_regular staleRun_ok).2.1
  obtain ⟨id, code, hid, hcode, hstored⟩ := decodes .label "en" 0 "cat" rfl
  cases Option.some.inj hid
  cases Option.some.inj hcode
  rw [hstored]
  decide +kernel

/-- Ids that get lost while the callback runs come back to their texts, or they are reported, and
those that are not lost stay what they are. -/
theorem lost_ids_restored_or_reported {operations : List Operation} {codes : Table String}
    {timeline after : Timeline} {replica : Database} {store : Store} {terms : TermSet}
    {callback : List RowId → List Operation} {ending : Except Failure Unit} {acquired : Acquired}
    (regular : ∀ operation ∈ operations, operation.Regular)
    (reached : ((performAll operations).run (Timeline.start codes Database.empty)).2 = timeline)
    (held : timeline.HasHeld replica) (distinct : store.codes.Distinct)
    (some_terms : ¬terms.isEmpty = true)
    (regular_callback : ∀ ids, ∀ operation ∈ callback ids, operation.Regular)
    (run : (store.acquireWith terms (doing callback ending)).run
      { timeline with storage := { timeline.storage with replica := replica } } =
        (.ok acquired, after)) :
    ∃ interned mid called,
      (store.intern terms).run { timeline.storage with replica := replica } =
        (.ok interned, mid) ∧
      (doing callback ending interned.ids.ids).run { timeline with storage := mid } =
        (.ok (), called) ∧
      (acquired.mismatch = none → acquired.ids = interned.ids ∧
        ∀ id ∈ interned.ids.ids, id ∈ after.storage.primary.termInLang.ids) ∧
      (∀ mismatch, acquired.mismatch = some mismatch →
        mismatch.idsToRestore ≠ [] ∧ mismatch.idsToRestore.Pairwise (· < ·) ∧
        (∀ id, id ∈ mismatch.idsToRestore ↔
          id ∈ interned.ids.ids ∧ id ∉ called.storage.primary.termInLang.ids) ∧
        ∀ type language place id, interned.ids.at? type language place = some id →
          id ∈ called.storage.primary.termInLang.ids →
          acquired.ids.at? type language place = some id) ∧
      (store.source = .primary →
        (∀ id ∈ mid.primary.termInLang.ids, id ∈ called.storage.primary.termInLang.ids) →
        acquired.mismatch = none) := by
  obtain ⟨ledger, recalls⟩ := run_recalled regular codes reached held
  obtain ⟨course⟩ := acquired_course recalls some_terms regular_callback run
  have settles := course.settles
  have hids := course.names.ids
  refine ⟨course.interned, course.mid, course.called, course.interns, course.calls,
    fun hnone => ?_, fun mismatch hmismatch => ⟨?_, ?_, ?_, ?_⟩, fun hsource keeps => ?_⟩
  · have same := settles.restored distinct hnone
    refine ⟨?_, fun id hid => ?_⟩
    · rw [settles.names.ids, hids]
      exact TermSet.withIds_congr same
    · rw [hids] at hid
      obtain ⟨fact, hfact, rfl⟩ := TermSet.mem_ids_withIds.mp hid
      rw [← same fact hfact]
      exact settles.present fact hfact
  · exact (settles.reported mismatch hmismatch).1
  · exact settles.lost_ascending hmismatch
  · rw [hids]
    exact settles.mem_lost hmismatch
  · intro type language place id hid hthere
    rw [hids, TermSet.at?_withIds] at hid
    obtain ⟨text, htext, rfl⟩ := Option.map_eq_some_iff.mp hid
    rw [settles.names.ids, TermSet.at?_withIds, htext, Option.map_some]
    exact congrArg some (settles.kept _ (TermSet.mem_facts_of_at? htext) hthere)
  · exact settles.unreported fun fact hfact => keeps _ (course.present hsource fact hfact)

theorem lost_ids_restored_or_reported_stale :
    ∃ interned mid, (laggingStore.intern oneLabel).run staleTimeline.storage = (.ok interned, mid) ∧
      TermMap.empty.put .label "en" [1] = interned.ids ∧
      ∀ id ∈ interned.ids.ids, id ∈ staleRun.2.storage.primary.termInLang.ids := by
  obtain ⟨interned, mid, _, hmid, _, restored, _, _⟩ := lost_ids_restored_or_reported
    staleHistory_regular rfl staleTimeline_hasHeld laggingStore_distinct (by decide)
    cleaningUp_regular staleRun_ok
  exact ⟨interned, mid, hmid, restored rfl⟩

end Termbase
