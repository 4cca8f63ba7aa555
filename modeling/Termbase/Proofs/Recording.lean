import Termbase.Proofs.Denoting

namespace Termbase

namespace Ledger

/-- Rows that some facts need have been added, and a later ledger accounts for them. -/
structure Adds (ledger : Ledger) (facts : List Fact) (codes : TypeCodes) (storage : Storage)
    (later : Ledger) (after : Storage) : Prop where
  le : ledger ≤ later
  sound : later.Sound after
  grows : storage.Grows after
  added : ∀ level, ∀ row ∈ (after.primary.table level).rows,
    row ∈ (storage.primary.table level).rows ∨
      ∃ fact ∈ facts, later.Knows codes fact level row.1

variable {ledger : Ledger} {facts : List Fact} {codes : TypeCodes} {storage : Storage}

namespace Adds

theorem refl (sound : ledger.Sound storage) : ledger.Adds facts codes storage ledger storage :=
  ⟨le_refl ledger, sound, Storage.Grows.refl storage, fun _ _ hrow => Or.inl hrow⟩

theorem trans {middle later : Ledger} {between after : Storage}
    (first : ledger.Adds facts codes storage middle between)
    (second : middle.Adds facts codes between later after) :
    ledger.Adds facts codes storage later after := by
  refine ⟨le_trans first.le second.le, second.sound, first.grows.trans _ _ _ second.grows, ?_⟩
  intro level row hrow
  rcases second.added level row hrow with hrow | hnew
  · rcases first.added level row hrow with hrow | ⟨fact, hfact, hknown⟩
    · exact Or.inl hrow
    · exact Or.inr ⟨fact, hfact, hknown.mono second.le⟩
  · exact Or.inr hnew

end Adds

/-- The action adds rows for the facts only, and what holds of its result does so in the light of
a later ledger. -/
def Leads {α : Type} (ledger : Ledger) (facts : List Fact) (codes : TypeCodes)
    (storage : Storage) (action : Action Storage α) (holds : Ledger → α → Storage → Prop) : Prop :=
  ∃ later, ledger.Adds facts codes storage later (action.run storage).2 ∧
    ∀ result, (action.run storage).1 = .ok result → holds later result (action.run storage).2

section Leads

variable {α β : Type} {holds : Ledger → α → Storage → Prop}

theorem leads_pure (sound : ledger.Sound storage) {result : α}
    (h : holds ledger result storage) : ledger.Leads facts codes storage (pure result) holds :=
  ⟨ledger, Adds.refl sound, fun _ he => Except.ok.inj he ▸ h⟩

theorem leads_ofResult_bind (sound : ledger.Sound storage) {result : Except Failure β}
    {next : β → Action Storage α}
    (h : ∀ x, result = .ok x → ledger.Leads facts codes storage (next x) holds) :
    ledger.Leads facts codes storage (Action.ofResult result >>= next) holds := by
  unfold Leads
  rw [Action.run_bind, Action.run_ofResult]
  cases result with
  | error failure => exact ⟨ledger, Adds.refl sound, nofun⟩
  | ok x => exact h x rfl

theorem leads_query_bind {source : Source} {view : Database → β} {next : β → Action Storage α}
    (h : ledger.Leads facts codes storage (next (view (storage.database source))) holds) :
    ledger.Leads facts codes storage (Action.query source view >>= next) holds := h

theorem leads_bind {action : Action Storage α} {next : α → Action Storage β}
    {after : Ledger → β → Storage → Prop}
    (first : ledger.Leads facts codes storage action holds)
    (second : ∀ later result between, ledger.Adds facts codes storage later between →
      holds later result between → later.Leads facts codes between (next result) after) :
    ledger.Leads facts codes storage (action >>= next) after := by
  obtain ⟨middle, hadds, hholds⟩ := first
  unfold Leads
  rw [Action.run_bind]
  rcases hrun : action.run storage with ⟨_ | result, between⟩
  · rw [hrun] at hadds
    exact ⟨middle, hadds, nofun⟩
  · rw [hrun] at hadds hholds
    obtain ⟨later, hadds', hafter⟩ := second middle result between hadds (hholds result rfl)
    exact ⟨later, hadds.trans hadds', hafter⟩

theorem leads_weaken {action : Action Storage α} {weaker : Ledger → α → Storage → Prop}
    (h : ledger.Leads facts codes storage action holds)
    (weaken : ∀ later result after, ledger.Adds facts codes storage later after →
      holds later result after → weaker later result after) :
    ledger.Leads facts codes storage action weaker := by
  obtain ⟨later, hadds, hholds⟩ := h
  exact ⟨later, hadds, fun result hresult => weaken _ _ _ hadds (hholds result hresult)⟩

theorem leads_adds {action : Action Storage α}
    (h : ledger.Leads facts codes storage action holds) :
    ledger.Leads facts codes storage action fun later result after =>
      holds later result after ∧ ledger.Adds facts codes storage later after :=
  leads_weaken h fun _ _ _ adds hholds => ⟨hholds, adds⟩

theorem leads_within {action : Action Storage α} {related : Storage → Storage → Prop}
    (h : ledger.Leads facts codes storage action holds) (within : action.Within related) :
    ledger.Leads facts codes storage action fun later result after =>
      holds later result after ∧ related storage after := by
  obtain ⟨later, hadds, hholds⟩ := h
  exact ⟨later, hadds, fun result hresult => ⟨hholds result hresult, within storage⟩⟩

theorem leads_rescue {action : Action Storage α} {handler : Failure → Option (Action Storage α)}
    (first : ledger.Leads facts codes storage action holds)
    (second : ∀ later between failure other, ledger.Adds facts codes storage later between →
      handler failure = some other → later.Leads facts codes between other holds) :
    ledger.Leads facts codes storage (action.rescue handler) holds := by
  obtain ⟨middle, hadds, hholds⟩ := first
  unfold Leads
  rw [Action.run_rescue]
  rcases hrun : action.run storage with ⟨failure | result, between⟩
  · rw [hrun] at hadds
    simp only
    cases hhandler : handler failure with
    | none => exact ⟨middle, hadds, nofun⟩
    | some other =>
      obtain ⟨later, hadds', hafter⟩ := second middle between failure other hadds hhandler
      exact ⟨later, hadds.trans hadds', hafter⟩
  · rw [hrun] at hadds hholds
    exact ⟨middle, hadds, hholds⟩

end Leads

variable {batch : BatchSize} {level : Level}

/-- Adding rows for the records of facts, forced ids included if they stand for the same. -/
theorem Sound.addRecords (sound : ledger.Sound storage)
    {rows : List (level.Record × Option RowId)} {primary : Database}
    (h : storage.primary.insertRecords batch level rows = .ok ((), primary))
    (needed : ∀ row ∈ rows, ∀ meaning, ledger.read level row.1 = some meaning →
      ∃ fact ∈ facts, fact.At codes level meaning)
    (fits : ∀ row ∈ rows, ∀ id, row.2 = some id → ledger.Agrees level id row.1) :
    ∃ later, ledger.Adds facts codes storage later { storage with primary := primary } := by
  obtain ⟨later, hle, hsound⟩ := sound.insertRecords h fits
  refine ⟨later, hle, hsound, Database.insertRecords_grows h, fun other row hrow => ?_⟩
  have hagrees := hsound.primary other row hrow
  obtain ⟨hparents, table, htable, rfl⟩ := Database.insertRecords_ok h
  by_cases same : other = level
  · subst same
    rw [Database.table_withTable] at hrow
    refine ((Table.insertAll_extends htable).1.mem_or hrow).imp_right fun hnew => ?_
    obtain ⟨pair, hpair, he⟩ := List.mem_map.mp hnew
    obtain ⟨before, hbefore⟩ := read_of_parent sound.primary (hparents pair hpair)
    obtain ⟨fact, hfact, hat⟩ := needed pair hpair before hbefore
    obtain ⟨meaning, hentry, hread⟩ := hagrees
    rw [← he, read_mono hle hbefore] at hread
    exact ⟨fact, hfact, before, hentry.trans hread.symm, hat⟩
  · rw [Database.table_withTable_of_ne same] at hrow
    exact Or.inl hrow

theorem leads_acquireIds (sound : ledger.Sound storage) {source : Source}
    {records : List level.Record} {forced : Option (ForcedIds level)}
    (needed : ∀ record ∈ records, ∀ meaning, ledger.read level record = some meaning →
      ∃ fact ∈ facts, fact.At codes level meaning)
    (fits : ∀ known, forced = some known → ∀ entry ∈ known.entries,
      ledger.Agrees level entry.2 entry.1) :
    ledger.Leads facts codes storage (acquireIds batch source level records forced)
      fun later ids after =>
        Acquires batch level records forced (storage.database source) storage (.ok ids) after ∧
          ∀ record ∈ records, ∃ id, ids.entries.lookup record = some id ∧
            later.Agrees level id record := by
  rcases hrun : (acquireIds batch source level records forced).run storage with ⟨outcome, after⟩
  have acquires := acquireIds_acquires hrun
  have agreed : ∀ later ids, ledger.Adds facts codes storage later after → outcome = .ok ids →
      ∀ record ∈ records, ∃ id, ids.entries.lookup record = some id ∧
        later.Agrees level id record := by
    intro later ids hadds he record hrecord
    rw [he] at acquires
    obtain ⟨id, hid⟩ := acquires.found hrecord
    refine ⟨id, hid, ?_⟩
    rcases (acquires.lookup hrecord).mp hid with hrow | ⟨_, hrow⟩
    · exact (sound.database source level _ hrow).mono hadds.le
    · exact hadds.sound.primary level _ hrow
  have adds : ∃ later, ledger.Adds facts codes storage later after := by
    rcases acquires.after_cases with rfl | ⟨primary, hinsert, rfl⟩
    · exact ⟨ledger, Adds.refl sound⟩
    · refine sound.addRecords hinsert (fun row hrow meaning hread => ?_) fun row hrow id hid => ?_
      · refine needed row.1 ?_ meaning hread
        have hrecord : row.1 ∈ (storage.database source).unknown level records := by
          rw [← forcedRows_records forced ((storage.database source).unknown level records)]
          exact List.mem_map.mpr ⟨row, hrow, rfl⟩
        exact (Database.mem_unknown.mp hrecord).1
      · obtain ⟨known, hforced, hentry⟩ := mem_forcedRows hrow hid
        exact fits known hforced _ hentry
  obtain ⟨later, hadds⟩ := adds
  unfold Leads
  rw [hrun]
  refine ⟨later, hadds, fun ids he => ⟨?_, agreed later ids hadds he⟩⟩
  rw [← he]
  exact acquires

end Ledger

end Termbase
