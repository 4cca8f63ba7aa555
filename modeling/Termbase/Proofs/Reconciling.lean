import Termbase.Proofs.Interning

namespace Termbase

namespace Ledger

variable {ledger : Ledger} {storage : Storage} {store : Store} {terms : TermSet}

/-- Ids that stand for the facts of a term set. -/
structure Names (ledger : Ledger) (codes : TypeCodes) (terms : TermSet) (ids : TermIds)
    (idOf : Fact → RowId) : Prop where
  ids : ids = terms.withIds idOf
  known : ∀ fact ∈ terms.facts, ledger.Knows codes fact .termInLang (idOf fact)

theorem Names.mono {later : Ledger} (h : ledger ≤ later) {codes : TypeCodes} {ids : TermIds}
    {idOf : Fact → RowId} (names : ledger.Names codes terms ids idOf) :
    later.Names codes terms ids idOf :=
  ⟨names.ids, fun fact hfact => (names.known fact hfact).mono h⟩

theorem leads_unrestored (sound : ledger.Sound storage) {codes : TypeCodes} {batch : BatchSize}
    {source : Source} :
    ledger.Leads terms.facts codes storage (internFrom codes batch source terms none)
      fun later interned after => ∃ idOf, later.Names codes terms interned.ids idOf ∧
        (source = .primary → ∀ fact ∈ terms.facts, idOf fact ∈ after.primary.termInLang.ids) := by
  have interned := @leads_internFrom codes batch source terms ledger storage sound none nofun
  refine leads_weaken interned fun later interned after _ h => ?_
  obtain ⟨idOf, interns⟩ := h
  exact ⟨idOf, ⟨interns.ids, interns.known⟩, interns.present⟩

theorem leads_intern (sound : ledger.Sound storage) :
    ledger.Leads terms.facts store.codes storage (store.intern terms)
      fun later interned after => ∃ idOf, later.Names store.codes terms interned.ids idOf ∧
        (store.source = .primary → ∀ fact ∈ terms.facts,
          idOf fact ∈ after.primary.termInLang.ids) := by
  unfold Store.intern
  refine leads_rescue (leads_unrestored sound) fun later between failure other adds hother => ?_
  split at hother
  next =>
    cases Option.some.inj hother
    refine leads_weaken (leads_unrestored adds.sound) fun later interned after _ h => ?_
    obtain ⟨idOf, names, present⟩ := h
    exact ⟨idOf, names, fun _ => present rfl⟩
  next => simp at hother

theorem Sound.id_unique (sound : ledger.Sound storage) {codes : TypeCodes} {fact : Fact}
    {level : Level} {a b : RowId} (ha : ledger.Knows codes fact level a)
    (hb : ledger.Knows codes fact level b) (apresent : a ∈ (storage.primary.table level).ids)
    (bpresent : b ∈ (storage.primary.table level).ids) : a = b := by
  obtain ⟨first, hfirst, hat⟩ := ha
  obtain ⟨second, hsecond, hat'⟩ := hb
  refine (separates sound.primary sound.intact level).id_unique sound.primary apresent bpresent ?_
  rw [hfirst, hsecond, hat.unique hat']

/-- What comes of checking ids: the ids that were still there stay, and without a mismatch all
others have come back. -/
structure Settles (later : Ledger) (codes : TypeCodes) (terms : TermSet) (idOf : Fact → RowId)
    (storage : Storage) (acquired : Acquired) (after : Storage) (final : Fact → RowId) :
    Prop where
  names : later.Names codes terms acquired.ids final
  present : ∀ fact ∈ terms.facts, final fact ∈ after.primary.termInLang.ids
  kept : ∀ fact ∈ terms.facts, idOf fact ∈ storage.primary.termInLang.ids → final fact = idOf fact
  restored : codes.Distinct → acquired.mismatch = none →
    ∀ fact ∈ terms.facts, final fact = idOf fact
  reported : ∀ mismatch, acquired.mismatch = some mismatch → mismatch.idsToRestore ≠ [] ∧
    ∃ batch, mismatch.idsToRestore =
      storage.primary.absentIds batch .termInLang (terms.withIds idOf).ids

namespace Settles

variable {later : Ledger} {codes : TypeCodes} {idOf final : Fact → RowId} {acquired : Acquired}
  {after : Storage} {mismatch : RestoreMismatch}

theorem mem_lost (settles : later.Settles codes terms idOf storage acquired after final)
    (h : acquired.mismatch = some mismatch) (id : RowId) :
    id ∈ mismatch.idsToRestore ↔
      id ∈ (terms.withIds idOf).ids ∧ id ∉ storage.primary.termInLang.ids := by
  obtain ⟨_, batch, hlost⟩ := settles.reported mismatch h
  rw [hlost]
  exact Database.mem_absentIds

theorem lost_ascending (settles : later.Settles codes terms idOf storage acquired after final)
    (h : acquired.mismatch = some mismatch) : mismatch.idsToRestore.Pairwise (· < ·) := by
  obtain ⟨_, batch, hlost⟩ := settles.reported mismatch h
  rw [hlost]
  exact (ascendingIds_pairwise _).sublist List.filter_sublist

theorem unreported (settles : later.Settles codes terms idOf storage acquired after final)
    (there : ∀ fact ∈ terms.facts, idOf fact ∈ storage.primary.termInLang.ids) :
    acquired.mismatch = none := by
  refine Option.eq_none_iff_forall_ne_some.mpr fun mismatch h => ?_
  obtain ⟨id, hid⟩ := List.exists_mem_of_ne_nil _ (settles.reported mismatch h).1
  obtain ⟨hlisted, hgone⟩ := (settles.mem_lost h id).mp hid
  obtain ⟨fact, hfact, rfl⟩ := TermSet.mem_ids_withIds.mp hlisted
  exact hgone (there fact hfact)

end Settles

theorem leads_reconcile (sound : ledger.Sound storage) {ids : TermIds} {idOf : Fact → RowId}
    (names : ledger.Names store.codes terms ids idOf) :
    ledger.Leads terms.facts store.codes storage (store.reconcile terms ids)
      fun later acquired after => ∃ final,
        later.Settles store.codes terms idOf storage acquired after final := by
  have hids := names.ids
  subst hids
  unfold Store.reconcile
  have mem_lost : ∀ {fact}, fact ∈ terms.facts →
      (idOf fact ∈ storage.primary.absentIds store.batch .termInLang (terms.withIds idOf).ids ↔
        idOf fact ∉ storage.primary.termInLang.ids) := by
    intro fact hfact
    rw [Database.mem_absentIds]
    exact ⟨fun h => h.2, fun h => ⟨TermSet.mem_ids_withIds.mpr ⟨fact, hfact, rfl⟩, h⟩⟩
  -- An id that stays is found again: two ids that are there and stand for one fact are the same.
  have kept : ∀ later after final, ledger.Adds terms.facts store.codes storage later after →
      later.Names store.codes terms (terms.withIds final) final →
      (∀ fact ∈ terms.facts, final fact ∈ after.primary.termInLang.ids) →
      ∀ fact ∈ terms.facts, idOf fact ∈ storage.primary.termInLang.ids →
        final fact = idOf fact := by
    intro later after final adds found present fact hfact hthere
    have hafter : idOf fact ∈ (after.primary.table .termInLang).ids := adds.grows.ids hthere
    exact adds.sound.id_unique (found.known fact hfact) ((names.mono adds.le).known fact hfact)
      (present fact hfact) hafter
  refine leads_query_bind ?_
  split
  next hnone =>
    have there : ∀ fact ∈ terms.facts, idOf fact ∈ storage.primary.termInLang.ids := by
      intro fact hfact
      have hlisted : idOf fact ∈ (terms.withIds idOf).ids :=
        TermSet.mem_ids_withIds.mpr ⟨fact, hfact, rfl⟩
      exact Database.absentIds_eq_nil.mp (List.isEmpty_iff.mp hnone) _ hlisted
    refine leads_pure sound ⟨idOf, names, there, fun _ _ _ => rfl, fun _ _ _ _ => rfl, nofun⟩
  next hsome =>
    have interned := @leads_internFrom store.codes store.batch .primary terms ledger storage sound
      (some (idOf, storage.primary.absentIds store.batch .termInLang (terms.withIds idOf).ids))
      fun previous lost hgiven fact hfact => by
        cases hgiven
        exact names.known fact hfact
    refine leads_bind (leads_adds interned) fun later interned after _ h => ?_
    obtain ⟨⟨final, interns⟩, adds⟩ := h
    have found : later.Names store.codes terms (terms.withIds final) final :=
      ⟨rfl, interns.known⟩
    have kept := kept later after final adds found (interns.present rfl)
    refine leads_pure adds.sound ⟨final, ⟨interns.ids, interns.known⟩, interns.present rfl, kept,
      fun distinct hfit fact hfact => ?_, fun mismatch hmismatch => ?_⟩
    · by_cases hthere : idOf fact ∈ storage.primary.termInLang.ids
      · exact kept fact hfact hthere
      · refine interns.restored idOf _ rfl rfl distinct (fun id hid => ?_)
          (Option.map_eq_none_iff.mp hfit) fact hfact ((mem_lost hfact).mpr hthere)
        exact (Database.mem_absentIds.mp hid).2
    · obtain ⟨_, _, rfl⟩ := Option.map_eq_some_iff.mp hmismatch
      exact ⟨fun hnil => hsome (List.isEmpty_iff.mpr hnil), store.batch, rfl⟩

end Ledger

end Termbase
