import Termbase.Proofs.Reconciling

namespace Termbase

/-- Whatever accounts for the first state, something later accounts for the second. -/
def Accounted {σ : Type} (accounts : Ledger → σ → Prop) (state after : σ) : Prop :=
  ∀ ledger, accounts ledger state → ∃ later, ledger ≤ later ∧ accounts later after

namespace Accounted

variable {σ : Type} {accounts : Ledger → σ → Prop}

theorem refl (state : σ) : Accounted accounts state state :=
  fun ledger h => ⟨ledger, Ledger.le_refl ledger, h⟩

theorem trans (a b c : σ) (hab : Accounted accounts a b) (hbc : Accounted accounts b c) :
    Accounted accounts a c := by
  intro ledger h
  obtain ⟨middle, hle, hb⟩ := hab ledger h
  obtain ⟨later, hle', hc⟩ := hbc middle hb
  exact ⟨later, Ledger.le_trans hle hle', hc⟩

end Accounted

theorem acquireIds_accounted (batch : BatchSize) (source : Source) (level : Level)
    (records : List level.Record) :
    (acquireIds batch source level records none).Within (Accounted Ledger.Sound) := by
  intro storage ledger sound
  rcases hrun : (acquireIds batch source level records none).run storage with ⟨outcome, after⟩
  have fits : ∀ missing, ∀ row ∈ forcedRows (none : Option (ForcedIds level)) missing, ∀ id,
      row.2 = some id → ledger.Agrees level id row.1 := by
    intro missing row hrow id hid
    obtain ⟨known, hnone, _⟩ := mem_forcedRows hrow hid
    simp at hnone
  rcases (acquireIds_acquires hrun).after_cases with rfl | ⟨primary, hinsert, rfl⟩
  · exact ⟨ledger, Ledger.le_refl ledger, sound⟩
  · exact sound.insertRecords hinsert (fits _)

theorem Ledger.Sound.clean {ledger : Ledger} {storage : Storage} (sound : ledger.Sound storage)
    (batch : BatchSize) (ids : List RowId) :
    ledger.Sound { storage with primary := (storage.primary.clean batch ids).2 } := by
  refine ⟨fun level row hrow => ?_, sound.replica, fun level id meaning hentry => ?_,
    sound.intact.clean batch ids⟩
  · exact sound.primary level row (Database.mem_of_mem_clean hrow)
  · rw [Database.lastId_clean]
    exact sound.bounded level id meaning hentry

theorem Ledger.Sound.withLinks {ledger : Ledger} {storage : Storage}
    (sound : ledger.Sound storage) (kind : EntityKind) (links : Links) :
    ledger.Sound { storage with primary := storage.primary.withLinks kind links } := by
  refine ⟨fun level => ?_, sound.replica, fun level => ?_, sound.intact.withLinks kind links⟩
  · rw [Database.table_withLinks]
    exact sound.primary level
  · rw [Database.table_withLinks]
    exact sound.bounded level

theorem Ledger.Sound.withTypeCodes {ledger : Ledger} {storage : Storage}
    (sound : ledger.Sound storage) (codes : Table String) :
    ledger.Sound { storage with primary := { storage.primary with typeCodes := codes } } := by
  have tables : ∀ level : Level,
      ({ storage.primary with typeCodes := codes } : Database).table level =
        storage.primary.table level := by
    intro level
    cases level <;> rfl
  refine ⟨fun level => ?_, sound.replica, fun level => ?_, sound.intact.withTypeCodes codes⟩
  · rw [tables]
    exact sound.primary level
  · rw [tables]
    exact sound.bounded level

theorem clean_accounted (batch : BatchSize) (ids : List RowId) :
    (clean batch ids).Within (Accounted Ledger.Sound) :=
  clean_within Accounted.refl
    (fun _ ids ledger sound => ⟨ledger, Ledger.le_refl ledger, sound.clean batch ids⟩) ids

theorem replaceLinks_accounted (entity : EntityId) (ids : List RowId) :
    (replaceLinks entity ids).Within (Accounted Ledger.Sound) := by
  refine .transact Accounted.refl fun storage result primary h ledger sound => ?_
  cases (Prod.mk.inj (Except.ok.inj h)).2
  exact ⟨ledger, Ledger.le_refl ledger, sound.withLinks _ _⟩

theorem removeLinks_accounted (entity : EntityId) :
    (removeLinks entity).Within (Accounted Ledger.Sound) := by
  refine .transact Accounted.refl fun storage result primary h ledger sound => ?_
  cases (Prod.mk.inj (Except.ok.inj h)).2
  exact ⟨ledger, Ledger.le_refl ledger, sound.withLinks _ _⟩

theorem registerTypes_accounted (types : List TermType) :
    (registerTypes types).Within (Accounted Ledger.Sound) :=
  registerTypes_within Accounted.refl Accounted.trans
    (fun _ codes ledger sound => ⟨ledger, Ledger.le_refl ledger, sound.withTypeCodes codes⟩) types

namespace Store

variable {σ : Type} [HasStorage σ]

theorem acquireWith_cases {store : Store} {terms : TermSet}
    {callback : List RowId → Action σ Unit} {state after : σ} {outcome : Except Failure Acquired}
    (some_terms : ¬terms.isEmpty = true)
    (h : (store.acquireWith terms callback).run state = (outcome, after)) :
    (∃ failure mid, (store.intern terms).run (HasStorage.storage state) = (.error failure, mid) ∧
      outcome = .error failure ∧ after = HasStorage.withStorage state mid) ∨
    ∃ interned mid, (store.intern terms).run (HasStorage.storage state) = (.ok interned, mid) ∧
      ((∃ failure, (callback interned.ids.ids).run (HasStorage.withStorage state mid) =
          (.error failure, after) ∧ outcome = .error failure) ∨
        ∃ called stored, (callback interned.ids.ids).run (HasStorage.withStorage state mid) =
            (.ok (), called) ∧
          (store.reconcile terms interned.ids).run (HasStorage.storage called) =
            (outcome, stored) ∧ after = HasStorage.withStorage called stored) := by
  rw [acquireWith_run some_terms] at h
  rcases hmid : (store.intern terms).run (HasStorage.storage state) with
    ⟨failure | interned, mid⟩
  · rw [hmid] at h
    obtain ⟨rfl, rfl⟩ := Prod.mk.inj h
    exact Or.inl ⟨failure, mid, rfl, rfl, rfl⟩
  · rw [hmid] at h
    refine Or.inr ⟨interned, mid, rfl, ?_⟩
    simp only at h
    rcases hcall : (callback interned.ids.ids).run (HasStorage.withStorage state mid) with
      ⟨failure | ⟨⟩, called⟩
    · rw [hcall] at h
      obtain ⟨rfl, rfl⟩ := Prod.mk.inj h
      exact Or.inl ⟨failure, rfl, rfl⟩
    · rw [hcall] at h
      obtain ⟨rfl, rfl⟩ := Prod.mk.inj h
      exact Or.inr ⟨called, _, rfl, rfl, rfl⟩

theorem acquireWith_accounted {accounts : Ledger → σ → Prop}
    (sound : ∀ ledger state, accounts ledger state → ledger.Sound (HasStorage.storage state))
    (stored : ∀ ledger later state storage, accounts ledger state → ledger ≤ later →
      later.Sound storage → accounts later (HasStorage.withStorage state storage))
    {store : Store} {terms : TermSet} {callback : List RowId → Action σ Unit}
    (called : ∀ ids, (callback ids).Within (Accounted accounts)) :
    (store.acquireWith terms callback).Within (Accounted accounts) := by
  by_cases hempty : terms.isEmpty = true
  · unfold acquireWith
    rw [if_pos hempty]
    exact .bind Accounted.trans (called []) fun _ => .pure Accounted.refl _
  · intro state ledger accounted
    rcases hrun : (store.acquireWith terms callback).run state with ⟨outcome, after⟩
    obtain ⟨first, adds, interned⟩ :=
      @Ledger.leads_intern ledger _ store terms (sound ledger state accounted)
    rcases acquireWith_cases hempty hrun with ⟨failure, mid, hmid, _, rfl⟩ | ⟨ids, mid, hmid, h⟩
    · rw [hmid] at adds
      exact ⟨first, adds.le, stored ledger first state mid accounted adds.le adds.sound⟩
    · rw [hmid] at adds interned
      obtain ⟨idOf, names, _⟩ := interned ids rfl
      have between := stored ledger first state mid accounted adds.le adds.sound
      obtain ⟨second, hle, callbackAccounted⟩ := called ids.ids.ids _ first between
      rcases h with ⟨failure, hcall, _⟩ | ⟨called, last, hcall, hlast, rfl⟩
      · rw [hcall] at callbackAccounted
        exact ⟨second, Ledger.le_trans adds.le hle, callbackAccounted⟩
      · rw [hcall] at callbackAccounted
        obtain ⟨third, adds', _⟩ :=
          Ledger.leads_reconcile (sound second called callbackAccounted) (names.mono hle)
        rw [hlast] at adds'
        exact ⟨third, Ledger.le_trans (Ledger.le_trans adds.le hle) adds'.le,
          stored second third called last callbackAccounted adds'.le adds'.sound⟩

/-- The course of an interning that ends well: what it interns, how its callback leaves things, and
what has become of the ids after it. -/
structure Course (store : Store) (terms : TermSet) (callback : List RowId → Action σ Unit)
    (ledger : Ledger) (state : σ) (acquired : Acquired) (after : σ) where
  interned : Interned
  mid : Storage
  called : σ
  first : Ledger
  second : Ledger
  later : Ledger
  idOf : Fact → RowId
  final : Fact → RowId
  interns : (store.intern terms).run (HasStorage.storage state) = (.ok interned, mid)
  adds : ledger.Adds terms.facts store.codes (HasStorage.storage state) first mid
  names : first.Names store.codes terms interned.ids idOf
  present : store.source = .primary → ∀ fact ∈ terms.facts, idOf fact ∈ mid.primary.termInLang.ids
  calls : (callback interned.ids.ids).run (HasStorage.withStorage state mid) = (.ok (), called)
  le : first ≤ second
  restores : second.Adds terms.facts store.codes (HasStorage.storage called) later
    (HasStorage.storage after)
  settles : later.Settles store.codes terms idOf (HasStorage.storage called) acquired
    (HasStorage.storage after) final

theorem acquireWith_course {accounts : Ledger → σ → Prop}
    (sound : ∀ ledger state, accounts ledger state → ledger.Sound (HasStorage.storage state))
    (stored : ∀ ledger later state storage, accounts ledger state → ledger ≤ later →
      later.Sound storage → accounts later (HasStorage.withStorage state storage))
    {store : Store} {terms : TermSet} {callback : List RowId → Action σ Unit}
    (called : ∀ ids, (callback ids).Within (Accounted accounts))
    (some_terms : ¬terms.isEmpty = true)
    {ledger : Ledger} {state after : σ} (accounted : accounts ledger state) {acquired : Acquired}
    (run : (store.acquireWith terms callback).run state = (.ok acquired, after)) :
    Nonempty (store.Course terms callback ledger state acquired after) := by
  obtain ⟨first, adds, named⟩ :=
    @Ledger.leads_intern ledger _ store terms (sound ledger state accounted)
  rcases acquireWith_cases some_terms run with ⟨_, _, _, he, _⟩ | ⟨interned, mid, hmid, h⟩
  · simp at he
  · rcases h with ⟨_, _, he⟩ | ⟨between, last, hcall, hlast, rfl⟩
    · simp at he
    · rw [hmid] at adds named
      obtain ⟨idOf, names, present⟩ := named interned rfl
      have accountedMid := stored ledger first state mid accounted adds.le adds.sound
      obtain ⟨second, hle, accountedBetween⟩ := called interned.ids.ids _ first accountedMid
      rw [hcall] at accountedBetween
      obtain ⟨later, restores, settled⟩ :=
        Ledger.leads_reconcile (sound second between accountedBetween) (names.mono hle)
      rw [hlast] at restores settled
      obtain ⟨final, settles⟩ := settled acquired rfl
      rw [← HasStorage.storage_withStorage between last] at restores settles
      exact ⟨⟨interned, mid, between, first, second, later, idOf, final, hmid, adds, names,
        present, hcall, hle, restores, settles⟩⟩

end Store

end Termbase
