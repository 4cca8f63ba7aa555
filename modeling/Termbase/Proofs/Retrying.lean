import Termbase.Proofs.Acquisition
import Termbase.Proofs.Yielding

namespace Termbase

/-- With a code for every type, interning gives ids that are there unless the storage fails. -/
theorem Store.acquire_yields {store : Store} {terms : TermSet} {storage : Storage}
    (cover : store.codes.Cover terms) :
    (store.acquire terms).Yields storage Failure.OfStorage fun acquired after =>
      ∀ id ∈ acquired.ids.ids, id ∈ after.primary.termInLang.ids := by
  unfold acquire acquireWith
  split
  next => exact .pure nofun
  next =>
    refine (intern_yields.allow fun _ => cover.ofStorage).bind fun interned between _ h => ?_
    obtain ⟨_, idOf, hids, coherent⟩ := h
    have checked := @reconcile_yields terms between store cover idOf coherent
    rw [← hids] at checked
    exact checked.weaken fun _ _ _ h => h.1

/-- A run of the passes over a term set: where it reads, and whether it is to put lost ids back. -/
structure Attempt where
  source : Source
  restores : Bool
  deriving DecidableEq, Repr

/-- A storage with the runs of the passes that have been made on it, the first one first. -/
structure Attempted where
  storage : Storage
  attempts : List Attempt

instance : HasStorage Attempted where
  storage := Attempted.storage
  withStorage := fun attempted storage => { attempted with storage := storage }
  storage_withStorage := fun _ _ => rfl
  withStorage_storage := fun _ => rfl
  withStorage_withStorage := fun _ _ _ => rfl

/-- Interning, by any way to run the passes. -/
def Store.acquireBy {σ : Type} [HasStorage σ] (store : Store)
    (passes : Source → Option Restoration → Action σ Interned) (terms : TermSet) :
    Action σ Acquired :=
  if terms.isEmpty then return Acquired.empty
  else do
    let interned ← (passes store.source none).rescue fun failure =>
      match failure with
      | .missingParent _ _ => some (passes .primary none)
      | _ => none
    let lost ← Action.onStorage <| Action.query .primary fun db =>
      db.absentIds store.batch .termInLang interned.ids.ids
    if lost.isEmpty then return ⟨interned.ids, none⟩
    else do
      let restored ← passes .primary (some ⟨interned.ids, lost⟩)
      return ⟨restored.ids, restored.mismatch.map fun mismatch => ⟨lost, mismatch.recordsToInsert⟩⟩

theorem Store.acquire_eq (store : Store) (terms : TermSet) :
    store.acquire terms = store.acquireBy (internFrom store.codes store.batch · terms) terms := by
  unfold acquire acquireWith acquireBy
  split <;> rfl

/-- Runs the passes and notes that it has done so. -/
def Store.attempt (store : Store) (terms : TermSet) (source : Source)
    (restoration : Option Restoration) : Action Attempted Interned := fun state =>
  match (internFrom store.codes store.batch source terms restoration).run state.storage with
  | (outcome, after) => (outcome, ⟨after, state.attempts ++ [⟨source, restoration.isSome⟩]⟩)

/-- The action does what the plain one does, and it makes some of the attempts in their order. -/
structure Action.Logs {α : Type} (logged : Action Attempted α) (plain : Action Storage α)
    (attempts : List Attempt) : Prop where
  run : ∀ state, plain.run state.storage = ((logged.run state).1, (logged.run state).2.storage)
  attempts : ∀ state, ∃ made, made.Sublist attempts ∧
    (logged.run state).2.attempts = state.attempts ++ made

namespace Action.Logs

variable {α β : Type} {attempts later : List Attempt}

theorem pure (result : α) :
    (Pure.pure result : Action Attempted α).Logs (Pure.pure result) attempts :=
  ⟨fun _ => rfl, fun state => ⟨[], List.nil_sublist _, (List.append_nil state.attempts).symm⟩⟩

theorem onStorage (action : Action Storage α) : (Action.onStorage action).Logs action attempts :=
  ⟨fun _ => rfl, fun state => ⟨[], List.nil_sublist _, (List.append_nil state.attempts).symm⟩⟩

theorem attempt (store : Store) (terms : TermSet) (source : Source)
    (restoration : Option Restoration) :
    (store.attempt terms source restoration).Logs
      (internFrom store.codes store.batch source terms restoration)
      [⟨source, restoration.isSome⟩] :=
  ⟨fun _ => rfl, fun _ => ⟨_, List.Sublist.refl _, rfl⟩⟩

theorem bind {logged : Action Attempted α} {plain : Action Storage α}
    {next : α → Action Attempted β} {following : α → Action Storage β}
    (first : logged.Logs plain attempts) (second : ∀ x, (next x).Logs (following x) later) :
    (logged >>= next).Logs (plain >>= following) (attempts ++ later) := by
  refine ⟨fun state => ?_, fun state => ?_⟩
  all_goals rw [run_bind]
  · rw [run_bind, first.run]
    rcases logged.run state with ⟨_ | x, between⟩
    · rfl
    · exact (second x).run between
  · obtain ⟨made, hmade, hfirst⟩ := first.attempts state
    rcases hrun : logged.run state with ⟨_ | x, between⟩
    · rw [hrun] at hfirst
      exact ⟨made, hmade.trans (List.sublist_append_left _ _), hfirst⟩
    · rw [hrun] at hfirst
      obtain ⟨rest, hrest, hsecond⟩ := (second x).attempts between
      refine ⟨made ++ rest, hmade.append hrest, hsecond.trans ?_⟩
      rw [hfirst, List.append_assoc]

theorem rescue {logged : Action Attempted α} {plain : Action Storage α}
    {handler : Failure → Option (Action Attempted α)}
    {fallback : Failure → Option (Action Storage α)} (first : logged.Logs plain attempts)
    (second : ∀ failure, handler failure = none ∧ fallback failure = none ∨
      ∃ again other, handler failure = some again ∧ fallback failure = some other ∧
        again.Logs other later) :
    (logged.rescue handler).Logs (plain.rescue fallback) (attempts ++ later) := by
  refine ⟨fun state => ?_, fun state => ?_⟩
  all_goals rw [run_rescue]
  · rw [run_rescue, first.run]
    rcases logged.run state with ⟨failure | x, between⟩
    · rcases second failure with ⟨hnone, hother⟩ | ⟨again, other, hagain, hother, logs⟩
      · simp only [hnone, hother]
      · simp only [hagain, hother]
        exact logs.run between
    · rfl
  · obtain ⟨made, hmade, hfirst⟩ := first.attempts state
    have once : made.Sublist (attempts ++ later) := hmade.trans (List.sublist_append_left _ _)
    rcases hrun : logged.run state with ⟨failure | x, between⟩
    · rw [hrun] at hfirst
      rcases second failure with ⟨hnone, _⟩ | ⟨again, other, hagain, _, logs⟩
      · simp only [hnone]
        exact ⟨made, once, hfirst⟩
      · obtain ⟨rest, hrest, hsecond⟩ := logs.attempts between
        simp only [hagain]
        refine ⟨made ++ rest, hmade.append hrest, hsecond.trans ?_⟩
        rw [hfirst, List.append_assoc]
    · rw [hrun] at hfirst
      exact ⟨made, once, hfirst⟩

end Action.Logs

/-- An interning makes at most three attempts: one as it is told to, one on the primary if a row is
gone that the source still knows, and one to put lost ids back. -/
theorem Store.acquireBy_logs (store : Store) (terms : TermSet) :
    (store.acquireBy (store.attempt terms) terms).Logs (store.acquire terms)
      [⟨store.source, false⟩, ⟨.primary, false⟩, ⟨.primary, true⟩] := by
  rw [acquire_eq]
  unfold acquireBy
  split
  next => exact .pure _
  next =>
    change Action.Logs _ _ (([⟨store.source, false⟩] ++ [⟨.primary, false⟩]) ++
      ([] ++ ([⟨.primary, true⟩] ++ [])))
    refine .bind (.rescue (.attempt store terms store.source none) fun failure => ?_)
      fun interned => .bind (.onStorage _) fun lost => ?_
    · split
      next => exact Or.inr ⟨_, _, rfl, rfl, .attempt store terms .primary none⟩
      next => exact Or.inl ⟨rfl, rfl⟩
    · split
      next => exact .pure _
      next => exact .bind (.attempt store terms .primary (some _)) fun restored => .pure _

/-- Whatever the primary and the replica hold: with a code for every type, an interning that is not
stopped by the storage gives ids, all of which are on the primary, and it runs the passes at most
three times. -/
theorem acquire_succeeds {store : Store} {terms : TermSet} {storage after : Storage}
    {outcome : Except Failure Acquired} (cover : store.codes.Cover terms)
    (run : (store.acquire terms).run storage = (outcome, after))
    (served : ¬StorageFails outcome) :
    (∃ acquired, outcome = .ok acquired ∧
      ∀ id ∈ acquired.ids.ids, id ∈ after.primary.termInLang.ids) ∧
    ∃ attempts : List Attempt, attempts.length ≤ 3 ∧
      attempts.Sublist [⟨store.source, false⟩, ⟨.primary, false⟩, ⟨.primary, true⟩] ∧
      (store.acquireBy (store.attempt terms) terms).run ⟨storage, []⟩ =
        (outcome, ⟨after, attempts⟩) := by
  refine ⟨?_, ?_⟩
  · cases outcome with
    | error failure => exact absurd ((Store.acquire_yields cover).error run).2 served
    | ok acquired => exact ⟨acquired, rfl, ((Store.acquire_yields cover).ok run).2⟩
  · have logs := store.acquireBy_logs terms
    obtain ⟨made, hmade, hattempts⟩ := logs.attempts ⟨storage, []⟩
    have hrun := (logs.run ⟨storage, []⟩).symm.trans run
    obtain ⟨houtcome, hafter⟩ := Prod.mk.inj hrun
    refine ⟨made, hmade.length_le, hmade, Prod.ext houtcome ?_⟩
    rcases hlast : ((store.acquireBy (store.attempt terms) terms).run ⟨storage, []⟩).2 with
      ⟨last, attempts⟩
    rw [hlast] at hafter hattempts
    exact congrArg₂ Attempted.mk hafter hattempts

/-- A text that has never been on the primary. -/
def strayReplica : Database := Database.empty.withTable .text (Table.empty.insertAt 7 "cat")

def strayRun : Except Failure Acquired × Storage :=
  (laggingStore.acquire oneLabel).run ⟨Database.empty, strayReplica⟩

theorem oneLabel_cover : laggingStore.codes.Cover oneLabel := by
  intro type _
  cases type <;> exact ⟨_, rfl⟩

/-- The replica's text has no row to point at, so the passes are run again on the primary. -/
theorem acquire_succeeds_stray :
    ((laggingStore.acquireBy (laggingStore.attempt oneLabel) oneLabel).run
      ⟨⟨Database.empty, strayReplica⟩, []⟩).2.attempts = [⟨.replica, false⟩, ⟨.primary, false⟩] ∧
    ∃ acquired, strayRun.1 = .ok acquired ∧ acquired.ids.ids = [1] ∧
      1 ∈ strayRun.2.primary.termInLang.ids := by
  have served : ¬StorageFails strayRun.1 := by decide +kernel
  obtain ⟨acquired, hacquired, present⟩ := (acquire_succeeds oneLabel_cover rfl served).1
  have listed : acquired.ids.ids = [1] := by
    have hrun : strayRun.1 = .ok ⟨TermMap.empty.put .label "en" [1], none⟩ := by decide +kernel
    cases Except.ok.inj (hacquired.symm.trans hrun)
    decide +kernel
  exact ⟨by decide +kernel, acquired, hacquired, listed, present 1 (by simp [listed])⟩

end Termbase
