import Termbase.Proofs.Accounting
import Termbase.Proofs.Timeline

namespace Termbase

/-- No id is forced by hand, and the replica only ever holds what the primary has held. -/
inductive Operation.Regular : Operation → Prop
  | acquire (store terms) : Regular (.acquire store terms)
  | acquireWith (store terms callback ending) :
      (∀ ids, ∀ operation ∈ callback ids, Regular operation) →
      Regular (.acquireWith store terms callback ending)
  | acquireIds (batch source level records) : Regular (.acquireIds batch source level records none)
  | clean (batch ids) : Regular (.clean batch ids)
  | storeTerms (store entity terms) : Regular (.storeTerms store entity terms)
  | deleteTerms (store entity) : Regular (.deleteTerms store entity)
  | connect (source batch) : Regular (.connect source batch)
  | sync (parts) : Regular (.sync parts)
  | lag (age) : Regular (.lag age)

/-- The ledger accounts for all that is there and all that the primary has held. -/
structure Ledger.Recalls (ledger : Ledger) (timeline : Timeline) : Prop where
  sound : ledger.Sound timeline.storage
  past : ∀ db ∈ timeline.past, ledger.Explains db

namespace Ledger.Recalls

variable {ledger later : Ledger} {timeline : Timeline}

theorem start (codes : Table String) :
    Ledger.empty.Recalls (Timeline.start codes Database.empty) := by
  have nothing : ∀ db : Database, (∀ level, (db.table level).rows = []) →
      Ledger.empty.Explains db := by
    intro db hrows level row hrow
    rw [hrows] at hrow
    simp at hrow
  have started : ∀ level,
      (({ Database.empty with typeCodes := codes } : Database).table level).rows = [] := by
    intro level
    cases level <;> rfl
  have emptied : ∀ level, (Database.empty.table level).rows = [] := by
    intro level
    cases level <;> rfl
  refine ⟨⟨nothing _ started, nothing _ emptied, fun _ _ _ h => ?_,
    Database.Intact.empty.withTypeCodes codes⟩, fun db hdb => ?_⟩
  · simp [Ledger.empty] at h
  · rw [List.mem_singleton.mp hdb]
    exact nothing _ started

theorem noted (h : ledger.Recalls timeline) : ledger.Recalls timeline.noted := by
  refine ⟨h.sound, fun db hdb => ?_⟩
  rcases List.mem_cons.mp hdb with rfl | hdb
  · exact h.sound.primary
  · exact h.past db hdb

theorem stored {storage : Storage} (h : ledger.Recalls timeline) (hle : ledger ≤ later)
    (sound : later.Sound storage) :
    later.Recalls { timeline with storage := storage } :=
  ⟨sound, fun db hdb => (h.past db hdb).mono hle⟩

theorem replicated (h : ledger.Recalls timeline) {replica : Database}
    (explained : ledger.Explains replica) :
    ledger.Recalls { timeline with storage := { timeline.storage with replica := replica } } :=
  ⟨⟨h.sound.primary, explained, h.sound.bounded, h.sound.intact⟩, h.past⟩

theorem mixture (h : ledger.Recalls timeline) (age : Part → Nat) :
    ledger.Explains (timeline.mixture age) := by
  intro level
  rw [Timeline.table_mixture, List.getD_eq_getElem?_getD]
  cases hdb : timeline.past[age (.rows level)]? with
  | none => exact h.sound.primary level
  | some db => exact h.past db (List.mem_of_getElem? hdb) level

end Ledger.Recalls

theorem Ledger.Explains.copyPart {ledger : Ledger} {db source : Database}
    (explained : ledger.Explains db) (copied : ledger.Explains source) (part : Part) :
    ledger.Explains (db.copyPart source part) := by
  have tables : ∀ level : Level, (db.copyPart source part).table level = db.table level ∨
      (db.copyPart source part).table level = source.table level := by
    intro level
    cases part with
    | rows other => cases other <;> cases level <;> first | exact Or.inl rfl | exact Or.inr rfl
    | typeCodes => cases level <;> exact Or.inl rfl
    | links kind => exact Or.inl (Database.table_withLinks _ _ _ _)
  intro level
  rcases tables level with h | h
  · rw [h]
    exact explained level
  · rw [h]
    exact copied level

theorem Ledger.Sound.sync {ledger : Ledger} {storage : Storage} (sound : ledger.Sound storage)
    (parts : List Part) : ledger.Explains (storage.sync parts).replica := by
  have copies : ∀ (parts : List Part) (db : Database), ledger.Explains db →
      ledger.Explains (parts.foldl (fun db part => db.copyPart storage.primary part) db) := by
    intro parts
    induction parts with
    | nil => exact fun _ h => h
    | cons part parts ih => exact fun db h => ih _ (h.copyPart sound.primary part)
  exact copies parts storage.replica sound.replica

theorem runs_accounted : LedBy Operation.Regular (Accounted Ledger.Recalls) := by
  have refl := @Accounted.refl Timeline Ledger.Recalls
  have trans := @Accounted.trans Timeline Ledger.Recalls
  have note : ∀ timeline : Timeline, Accounted Ledger.Recalls timeline timeline.noted :=
    fun timeline ledger h => ⟨ledger, Ledger.le_refl ledger, h.noted⟩
  have lift : ∀ (timeline : Timeline) (after : Storage),
      Accounted Ledger.Sound timeline.storage after →
      Accounted Ledger.Recalls timeline { timeline with storage := after } := by
    intro timeline after h ledger recalls
    obtain ⟨later, hle, sound⟩ := h ledger recalls.sound
    exact ⟨later, hle, recalls.stored hle sound⟩
  have acts {α : Type} {action : Action Storage α} (h : action.Within (Accounted Ledger.Sound)) :=
    Timeline.act_within trans note lift h
  have acquired (store : Store) (terms : TermSet) {callback : List RowId → Action Storage Unit}
      (called : ∀ ids, (callback ids).Within (Accounted Ledger.Sound)) :
      (store.acquireWith terms callback).Within (Accounted Ledger.Sound) :=
    Store.acquireWith_accounted (fun _ _ h => h) (fun _ _ _ _ _ _ h => h) called
  have replicates (replica : Timeline → Database) (h : ∀ ledger timeline,
      ledger.Recalls timeline → ledger.Explains (replica timeline)) :
      (Timeline.replicate replica).Within (Accounted Ledger.Recalls) :=
    fun timeline ledger recalls =>
      ⟨ledger, Ledger.le_refl ledger, recalls.replicated (h ledger timeline recalls)⟩
  refine ⟨refl, trans, ?_, ?_, ?_⟩
  · intro store terms callback ending regular ids operation hoperation
    cases regular with
    | acquireWith _ _ _ _ nested => exact nested ids operation hoperation
  · intro store terms callback ending _ hcallback
    rw [perform_acquireWith]
    refine Timeline.noting_within trans note (Store.acquireWith_accounted
      (fun _ _ h => h.sound) (fun _ _ _ _ h hle sound => h.stored hle sound) fun ids timeline => ?_)
    exact trans _ _ _ (note timeline) (hcallback ids timeline.noted)
  · intro operation regular other
    cases regular with
    | acquire store terms => exact acts (acquired store terms fun _ => .pure Accounted.refl _)
    | acquireWith store terms callback ending => exact absurd rfl (other _ _ _ _)
    | acquireIds batch source level records =>
      exact acts (acquireIds_accounted batch source level records)
    | clean batch ids => exact acts (clean_accounted batch ids)
    | storeTerms store entity terms =>
      exact acts (Store.storeTerms_within Accounted.refl Accounted.trans
        (acquired store terms (replaceLinks_accounted entity)) (replaceLinks_accounted entity)
        (clean_accounted _))
    | deleteTerms store entity =>
      exact acts (store.deleteTerms_within Accounted.trans entity (removeLinks_accounted entity)
        (clean_accounted _))
    | connect source batch =>
      exact acts (Store.connect_within Accounted.refl Accounted.trans registerTypes_accounted
        source)
    | sync parts => exact replicates _ fun _ _ h => h.sound.sync parts
    | lag age => exact replicates _ fun _ _ h => h.mixture age

/-- Each row of the database is or has been a row of the primary. -/
def Timeline.HasHeld (timeline : Timeline) (db : Database) : Prop :=
  ∀ level, ∀ row ∈ (db.table level).rows,
    ∃ held ∈ timeline.storage.primary :: timeline.past, row ∈ (held.table level).rows

theorem Ledger.Recalls.held {ledger : Ledger} {timeline : Timeline} {db : Database}
    (h : ledger.Recalls timeline) (held : timeline.HasHeld db) : ledger.Explains db := by
  intro level row hrow
  obtain ⟨old, hold, hrow⟩ := held level row hrow
  rcases List.mem_cons.mp hold with rfl | hold
  · exact h.sound.primary level row hrow
  · exact h.past old hold level row hrow

/-- After a regular run, everything is accounted for, with any replica of what has been held. -/
theorem run_recalled {operations : List Operation}
    (regular : ∀ operation ∈ operations, operation.Regular) (codes : Table String)
    {timeline : Timeline}
    (h : ((performAll operations).run (Timeline.start codes Database.empty)).2 = timeline)
    {replica : Database} (held : timeline.HasHeld replica) :
    ∃ ledger : Ledger, ledger.Recalls
      { timeline with storage := { timeline.storage with replica := replica } } := by
  obtain ⟨ledger, _, recalls⟩ := runs_accounted.performAll operations regular
    (Timeline.start codes Database.empty) Ledger.empty (Ledger.Recalls.start codes)
  rw [h] at recalls
  exact ⟨ledger, recalls.replicated (recalls.held held)⟩

end Termbase
