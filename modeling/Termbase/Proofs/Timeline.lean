import Termbase.Proofs.Stores

namespace Termbase

/-- A storage with the states that its primary has been in, the latest first. -/
structure Timeline where
  storage : Storage
  past : List Database

instance : HasStorage Timeline where
  storage := Timeline.storage
  withStorage := fun timeline storage => { timeline with storage := storage }
  storage_withStorage := fun _ _ => rfl
  withStorage_storage := fun _ => rfl
  withStorage_withStorage := fun _ _ _ => rfl

namespace Timeline

/-- Nothing is interned or linked yet. -/
def start (codes : Table String) (replica : Database) : Timeline :=
  ⟨⟨{ Database.empty with typeCodes := codes }, replica⟩,
    [{ Database.empty with typeCodes := codes }]⟩

def noted (timeline : Timeline) : Timeline :=
  { timeline with past := timeline.storage.primary :: timeline.past }

/-- A database each part of which is a copy from some past state. -/
def mixture (timeline : Timeline) (age : Part → Nat) : Database :=
  Part.all.foldl (fun db part =>
    db.copyPart (timeline.past.getD (age part) timeline.storage.primary) part) Database.empty

/-- An action with the state that it leaves noted, whether it fails or not. -/
def noting {α : Type} (action : Action Timeline α) : Action Timeline Unit := fun timeline =>
  match action.run timeline with
  | (outcome, after) => (outcome.map fun _ => (), after.noted)

def act {α : Type} (action : Action Storage α) : Action Timeline Unit :=
  noting (Action.onStorage action)

def replicate (replica : Timeline → Database) : Action Timeline Unit :=
  Action.update fun timeline =>
    { timeline with storage := { timeline.storage with replica := replica timeline } }

end Timeline

/-- What clients of a storage do, and what happens to its replica. -/
inductive Operation where
  | acquire (store : Store) (terms : TermSet)
  /-- Interns with a callback that does operations of its own, some of which may fail, and then
  ends well or with a failure. -/
  | acquireWith (store : Store) (terms : TermSet) (callback : List RowId → List Operation)
      (ending : Except Failure Unit)
  | acquireIds (batch : BatchSize) (source : Source) (level : Level)
      (records : List level.Record) (forced : Option (ForcedIds level))
  | clean (batch : BatchSize) (ids : List RowId)
  | storeTerms (store : Store) (entity : EntityId) (terms : TermSet)
  | deleteTerms (store : Store) (entity : EntityId)
  | connect (source : Source) (batch : BatchSize)
  | sync (parts : List Part)
  /-- The replica falls back to earlier states of the primary, each part to one of its own. -/
  | lag (age : Part → Nat)
  /-- The replica becomes anything at all. -/
  | distort (replica : Database)

/-- The store that the operation interns terms with. -/
def Operation.store? : Operation → Option Store
  | .acquire store _ | .acquireWith store _ _ _ | .storeTerms store _ _ => some store
  | _ => none

mutual

/-- Does an operation. The replica may change at any time between operations. -/
def Operation.perform : Operation → Action Timeline Unit
  | .acquire store terms => Timeline.act (store.acquire terms)
  | .acquireWith store terms callback ending =>
    Timeline.noting (store.acquireWith terms fun ids timeline =>
      (ending, (performAll (callback ids) timeline.noted).2))
  | .acquireIds batch source level records forced =>
    Timeline.act (acquireIds batch source level records forced)
  | .clean batch ids => Timeline.act (Termbase.clean batch ids)
  | .storeTerms store entity terms => Timeline.act (store.storeTerms entity terms)
  | .deleteTerms store entity => Timeline.act (store.deleteTerms entity)
  | .connect source batch => Timeline.act (Store.connect source batch)
  | .sync parts => Timeline.replicate fun timeline => (timeline.storage.sync parts).replica
  | .lag age => Timeline.replicate fun timeline => timeline.mixture age
  | .distort replica => Timeline.replicate fun _ => replica

/-- Does operations one after the other. One that fails does not keep the next from being done. -/
def performAll : List Operation → Action Timeline Unit
  | [], timeline => (.ok (), timeline)
  | operation :: operations, timeline =>
    performAll operations (operation.perform timeline).2

end

/-- The callback that does operations and ends as it is told. -/
def doing (callback : List RowId → List Operation) (ending : Except Failure Unit)
    (ids : List RowId) : Action Timeline Unit := fun timeline =>
  (ending, ((performAll (callback ids)).run timeline.noted).2)

namespace Timeline

theorem table_mixture (timeline : Timeline) (age : Part → Nat) (level : Level) :
    (timeline.mixture age).table level =
      (timeline.past.getD (age (.rows level)) timeline.storage.primary).table level := by
  cases level <;> rfl

variable {moved : Timeline → Timeline → Prop}

theorem noting_within (trans : ∀ a b c, moved a b → moved b c → moved a c)
    (note : ∀ timeline, moved timeline timeline.noted) {α : Type} {action : Action Timeline α}
    (h : action.Within moved) : (noting action).Within moved :=
  fun timeline => trans _ _ _ (h timeline) (note _)

theorem act_after (trans : ∀ a b c, moved a b → moved b c → moved a c)
    (note : ∀ timeline, moved timeline timeline.noted) {stored : Storage → Storage → Prop}
    (lift : ∀ timeline after, stored timeline.storage after →
      moved timeline { timeline with storage := after })
    {α : Type} {action : Action Storage α} {timeline : Timeline}
    (h : stored timeline.storage (action.run timeline.storage).2) :
    moved timeline ((act action).run timeline).2 :=
  trans _ _ _ (lift timeline _ h) (note _)

theorem act_within (trans : ∀ a b c, moved a b → moved b c → moved a c)
    (note : ∀ timeline, moved timeline timeline.noted) {stored : Storage → Storage → Prop}
    (lift : ∀ timeline after, stored timeline.storage after →
      moved timeline { timeline with storage := after })
    {α : Type} {action : Action Storage α} (h : action.Within stored) :
    (act action).Within moved :=
  fun timeline => act_after trans note lift (h timeline.storage)

end Timeline

theorem perform_acquireWith (store : Store) (terms : TermSet)
    (callback : List RowId → List Operation) (ending : Except Failure Unit) :
    (Operation.acquireWith store terms callback ending).perform =
      Timeline.noting (store.acquireWith terms (doing callback ending)) := by
  unfold Operation.perform
  rfl

/-- What has to be shown of the allowed operations, one by one, for all of their runs to lead to
related states. An operation with a callback may rely on the callback. -/
structure LedBy (allowed : Operation → Prop) (moved : Timeline → Timeline → Prop) : Prop where
  refl : ∀ timeline, moved timeline timeline
  trans : ∀ a b c, moved a b → moved b c → moved a c
  nested : ∀ store terms callback ending, allowed (.acquireWith store terms callback ending) →
    ∀ ids, ∀ operation ∈ callback ids, allowed operation
  called : ∀ store terms callback ending, allowed (.acquireWith store terms callback ending) →
    (∀ ids, (performAll (callback ids)).Within moved) →
    (Operation.acquireWith store terms callback ending).perform.Within moved
  plain : ∀ operation : Operation, allowed operation →
    (∀ store terms callback ending, operation ≠ .acquireWith store terms callback ending) →
    operation.perform.Within moved

namespace LedBy

variable {allowed : Operation → Prop} {moved : Timeline → Timeline → Prop}

-- The recursion is on how callbacks are nested in one another.
mutual

theorem perform (led : LedBy allowed moved) (operation : Operation) (h : allowed operation) :
    operation.perform.Within moved := by
  cases operation with
  | acquireWith store terms callback ending =>
    exact led.called store terms callback ending h fun ids =>
      led.performAll (callback ids) (led.nested store terms callback ending h ids)
  | _ => exact led.plain _ h fun _ _ _ _ => nofun

theorem performAll (led : LedBy allowed moved) (operations : List Operation)
    (h : ∀ operation ∈ operations, allowed operation) :
    (performAll operations).Within moved := by
  cases operations with
  | nil => exact led.refl
  | cons operation operations =>
    intro timeline
    have first := led.perform operation (h operation List.mem_cons_self) timeline
    have rest := led.performAll operations fun other hother =>
      h other (List.mem_cons_of_mem _ hother)
    exact led.trans _ _ _ first (rest (operation.perform.run timeline).2)

end

/-- What has to be shown of the actions on a storage for all runs to lead to related states. The
replica may become anything. -/
theorem of_actions {stored : Storage → Storage → Prop} (refl : ∀ timeline, moved timeline timeline)
    (trans : ∀ a b c, moved a b → moved b c → moved a c)
    (note : ∀ timeline, moved timeline timeline.noted)
    (storedRefl : ∀ storage, stored storage storage)
    (storedTrans : ∀ a b c, stored a b → stored b c → stored a c)
    (lift : ∀ timeline after, stored timeline.storage after →
      moved timeline { timeline with storage := after })
    (nested : ∀ store terms callback ending, allowed (.acquireWith store terms callback ending) →
      ∀ ids, ∀ operation ∈ callback ids, allowed operation)
    (interned : ∀ operation store, allowed operation → operation.store? = some store →
      ∀ source terms restoration,
        (internFrom store.codes store.batch source terms restoration).Within stored)
    (acquired : ∀ batch source level records forced,
      allowed (.acquireIds batch source level records forced) →
      (acquireIds batch source level records forced).Within stored)
    (replaced : ∀ store entity terms, allowed (.storeTerms store entity terms) →
      ∀ ids, (replaceLinks entity ids).Within stored)
    (removed : ∀ store entity, allowed (.deleteTerms store entity) →
      (removeLinks entity).Within stored)
    (cleaned : ∀ batch ids, (clean batch ids).Within stored)
    (registered : ∀ types, (registerTypes types).Within stored)
    (replicated : ∀ timeline replica,
      moved timeline { timeline with storage := { timeline.storage with replica := replica } }) :
    LedBy allowed moved := by
  have acts {α : Type} {action : Action Storage α} (h : action.Within stored) :=
    Timeline.act_within trans note lift h
  have passes {operation : Operation} {store : Store} (h : allowed operation)
      (own : operation.store? = some store) (terms : TermSet) (source : Source)
      (restoration : Option Restoration) :=
    interned operation store h own source terms restoration
  refine ⟨refl, trans, nested, ?_, ?_⟩
  · intro store terms callback ending h hcallback
    rw [perform_acquireWith]
    refine Timeline.noting_within trans note (Store.acquireWith_within refl trans lift
      (Store.intern_within storedTrans store (passes h rfl terms))
      (Store.reconcile_within storedRefl storedTrans store (passes h rfl terms))
      fun ids timeline => ?_)
    exact trans _ _ _ (note timeline) (hcallback ids timeline.noted)
  · intro operation h other
    cases operation with
    | acquire store terms =>
      exact acts (store.acquire_within storedRefl storedTrans (passes h rfl terms))
    | acquireWith store terms callback ending => exact absurd rfl (other _ _ _ _)
    | acquireIds batch source level records forced => exact acts (acquired _ _ _ _ _ h)
    | clean batch ids => exact acts (cleaned batch ids)
    | storeTerms store entity terms =>
      have linked := replaced store entity terms h
      exact acts (Store.storeTerms_within storedRefl storedTrans
        (Store.acquireWith_within storedRefl storedTrans (fun _ _ h => h)
          (Store.intern_within storedTrans store (passes h rfl terms))
          (Store.reconcile_within storedRefl storedTrans store (passes h rfl terms)) linked)
        linked (cleaned store.batch))
    | deleteTerms store entity =>
      exact acts (store.deleteTerms_within storedTrans entity (removed store entity h)
        (cleaned store.batch))
    | connect source batch =>
      exact acts (Store.connect_within storedRefl storedTrans registered source)
    | sync => exact fun timeline => replicated timeline _
    | lag => exact fun timeline => replicated timeline _
    | distort => exact fun timeline => replicated timeline _

end LedBy

end Termbase
