import Termbase.Proofs.Anchoring

namespace Termbase

/-- What clients do when they leave interning to admitted stores. No row is interned by hand, and
the replica only ever holds what the primary has held. -/
inductive Operation.Managed (admits : Store → Prop) : Operation → Prop
  | acquire {store} (admitted : admits store) (terms) : Managed admits (.acquire store terms)
  | acquireWith {store} (admitted : admits store) (terms callback ending) :
      (∀ ids, ∀ operation ∈ callback ids, Managed admits operation) →
      Managed admits (.acquireWith store terms callback ending)
  | clean (batch ids) : Managed admits (.clean batch ids)
  | storeTerms {store} (admitted : admits store) (entity terms) :
      Managed admits (.storeTerms store entity terms)
  | deleteTerms (store entity) : Managed admits (.deleteTerms store entity)
  | connect (source batch) : Managed admits (.connect source batch)
  | sync (parts) : Managed admits (.sync parts)
  | lag (age) : Managed admits (.lag age)

theorem Operation.Managed.regular {admits : Store → Prop} {operation : Operation}
    (managed : operation.Managed admits) : operation.Regular := by
  induction managed with
  | acquire => exact .acquire _ _
  | acquireWith _ _ _ _ _ nested => exact .acquireWith _ _ _ _ nested
  | clean => exact .clean _ _
  | storeTerms => exact .storeTerms _ _ _
  | deleteTerms => exact .deleteTerms _ _
  | connect => exact .connect _ _
  | sync => exact .sync _
  | lag => exact .lag _

theorem staleHistory_managed {admits : Store → Prop} (admitted : admits laggingStore) :
    ∀ operation ∈ staleHistory, operation.Managed admits := by
  intro operation h
  simp only [staleHistory, List.mem_cons, List.not_mem_nil, or_false] at h
  rcases h with rfl | rfl | rfl
  · exact .acquire admitted _
  · exact .sync _
  · exact .clean _ _

theorem Operation.Managed.admitted {admits : Store → Prop} {operation : Operation} {store : Store}
    (managed : operation.Managed admits) (own : operation.store? = some store) : admits store := by
  cases managed with
  | acquire admitted | acquireWith admitted | storeTerms admitted =>
    exact Option.some.inj own ▸ admitted
  | clean | deleteTerms | connect | sync | lag => simp [Operation.store?] at own

mutual

/-- The event takes place with the operation or while the callback of the operation runs. -/
inductive Operation.Meets (event : Operation → Timeline → Prop) : Operation → Timeline → Prop
  | itself {operation timeline} : event operation timeline →
      Operation.Meets event operation timeline
  | nested {store terms callback ending timeline ids called} :
      store.Calls terms timeline ids called → AnyMeets event (callback ids) called.noted →
      Operation.Meets event (.acquireWith store terms callback ending) timeline

/-- The event takes place when the operations are done one after the other. -/
inductive AnyMeets (event : Operation → Timeline → Prop) : List Operation → Timeline → Prop
  | first {operation operations timeline} : operation.Meets event timeline →
      AnyMeets event (operation :: operations) timeline
  | later {operation operations timeline} :
      AnyMeets event operations (operation.perform.run timeline).2 →
      AnyMeets event (operation :: operations) timeline

end

-- The recursion is on the way to the event, which may lead into callbacks.
mutual

/-- The event takes place with some operation at some moment, and any other event that takes place
there takes place in the whole. -/
theorem Operation.Meets.place {event : Operation → Timeline → Prop} {operation : Operation}
    {timeline : Timeline} : operation.Meets event timeline →
      ∃ inner moment, event inner moment ∧
        ∀ other : Operation → Timeline → Prop, other inner moment → operation.Meets other timeline
  | .itself h => ⟨operation, timeline, h, fun _ => .itself⟩
  | .nested calls met =>
    have ⟨inner, moment, h, back⟩ := met.place
    ⟨inner, moment, h, fun other h => .nested calls (back other h)⟩

theorem AnyMeets.place {event : Operation → Timeline → Prop} {operations : List Operation}
    {timeline : Timeline} : AnyMeets event operations timeline →
      ∃ inner moment, event inner moment ∧
        ∀ other : Operation → Timeline → Prop, other inner moment →
          AnyMeets other operations timeline
  | .first met =>
    have ⟨inner, moment, h, back⟩ := met.place
    ⟨inner, moment, h, fun other h => .first (back other h)⟩
  | .later met =>
    have ⟨inner, moment, h, back⟩ := met.place
    ⟨inner, moment, h, fun other h => .later (back other h)⟩

end

/-- What has to be shown of the allowed operations, one by one, for all of their runs in which some
event does not take place to lead to related states. -/
structure LedWithout (allowed : Operation → Prop) (event : Operation → Timeline → Prop)
    (moved : Timeline → Timeline → Prop) : Prop where
  refl : ∀ timeline, moved timeline timeline
  trans : ∀ a b c, moved a b → moved b c → moved a c
  note : ∀ timeline, moved timeline timeline.noted
  nested : ∀ store terms callback ending, allowed (.acquireWith store terms callback ending) →
    ∀ ids, ∀ operation ∈ callback ids, allowed operation
  called : ∀ store terms callback ending, allowed (.acquireWith store terms callback ending) →
    ∀ timeline, ¬event (.acquireWith store terms callback ending) timeline →
    (∀ ids moment, store.Calls terms timeline ids moment →
      moved moment ((doing callback ending ids).run moment).2) →
    moved timeline ((Operation.acquireWith store terms callback ending).perform.run timeline).2
  plain : ∀ operation : Operation, allowed operation →
    (∀ store terms callback ending, operation ≠ .acquireWith store terms callback ending) →
    ∀ timeline, ¬event operation timeline → moved timeline (operation.perform.run timeline).2

namespace LedWithout

variable {allowed : Operation → Prop} {event : Operation → Timeline → Prop}
  {moved : Timeline → Timeline → Prop}

-- The recursion is on how callbacks are nested in one another.
mutual

theorem perform (led : LedWithout allowed event moved) (operation : Operation)
    (h : allowed operation) {timeline : Timeline} (never : ¬operation.Meets event timeline) :
    moved timeline (operation.perform.run timeline).2 := by
  have itself : ¬event operation timeline := fun met => never (.itself met)
  cases operation with
  | acquireWith store terms callback ending =>
    refine led.called store terms callback ending h timeline itself fun ids moment calls => ?_
    have rest := led.performAll (callback ids) (led.nested store terms callback ending h ids)
      fun met => never (.nested calls met)
    exact led.trans _ _ _ (led.note moment) rest
  | _ => exact led.plain _ h (fun _ _ _ _ => nofun) timeline itself

theorem performAll (led : LedWithout allowed event moved) (operations : List Operation)
    (h : ∀ operation ∈ operations, allowed operation) {timeline : Timeline}
    (never : ¬AnyMeets event operations timeline) :
    moved timeline ((performAll operations).run timeline).2 := by
  cases operations with
  | nil => exact led.refl timeline
  | cons operation operations =>
    have first := led.perform operation (h operation List.mem_cons_self)
      fun met => never (.first met)
    have rest := led.performAll operations (fun other hother =>
      h other (List.mem_cons_of_mem _ hother)) fun met => never (.later met)
    exact led.trans _ _ _ first rest

end

end LedWithout

/-- The storage fails for what a call interns or, after its callback, for what it puts back. -/
def Store.FailsOnStorage {σ : Type} [HasStorage σ] (store : Store) (terms : TermSet)
    (callback : List RowId → Action σ Unit) (state : σ) : Prop :=
  match (store.intern terms).run (HasStorage.storage state) with
  | (.error failure, _) => failure.OfStorage
  | (.ok interned, mid) =>
    match (callback interned.ids.ids).run (HasStorage.withStorage state mid) with
    | (.error _, _) => False
    | (.ok _, called) =>
      StorageFails ((store.reconcile terms interned.ids).run (HasStorage.storage called)).1

instance {σ : Type} [HasStorage σ] (store : Store) (terms : TermSet)
    (callback : List RowId → Action σ Unit) (state : σ) :
    Decidable (store.FailsOnStorage terms callback state) := by
  unfold Store.FailsOnStorage
  split
  next => infer_instance
  next => split <;> infer_instance

theorem Store.failsOnStorage_interning {σ : Type} [HasStorage σ] {store : Store} {terms : TermSet}
    {callback : List RowId → Action σ Unit} {state : σ} {mid : Storage} {failure : Failure}
    (run : (store.intern terms).run (HasStorage.storage state) = (.error failure, mid))
    (fails : failure.OfStorage) : store.FailsOnStorage terms callback state := by
  unfold FailsOnStorage
  rw [run]
  exact fails

theorem Store.failsOnStorage_restoring {σ : Type} [HasStorage σ] {store : Store} {terms : TermSet}
    {callback : List RowId → Action σ Unit} {state called : σ} {mid last : Storage}
    {interned : Interned} {failure : Failure}
    (first : (store.intern terms).run (HasStorage.storage state) = (.ok interned, mid))
    (second : (callback interned.ids.ids).run (HasStorage.withStorage state mid) =
      (.ok (), called))
    (third : (store.reconcile terms interned.ids).run (HasStorage.storage called) =
      (.error failure, last))
    (fails : failure.OfStorage) : store.FailsOnStorage terms callback state := by
  unfold FailsOnStorage
  simp only [first, second, third]
  exact fails

def Fact.phrase (fact : Fact) : Phrase := ⟨fact.language, fact.text⟩

/-- The interning fails for lack of a type code. -/
def Store.LacksCode (store : Store) (terms : TermSet) (storage : Storage) : Prop :=
  ∃ type, ((store.intern terms).run storage).1 = .error (.missingTypeCode type)

namespace Operation

/-- An interning call for which the storage fails. -/
def FailsOnStorage : Operation → Timeline → Prop
  | .acquire store terms, timeline =>
    store.FailsOnStorage terms (fun _ => pure () : List RowId → Action Storage Unit)
      timeline.storage
  | .acquireWith store terms callback ending, timeline =>
    store.FailsOnStorage terms (doing callback ending) timeline
  | .storeTerms store entity terms, timeline =>
    store.FailsOnStorage terms (replaceLinks entity) timeline.storage
  | _, _ => False

instance : (operation : Operation) → (timeline : Timeline) →
    Decidable (operation.FailsOnStorage timeline)
  | .acquire store terms, timeline =>
    inferInstanceAs (Decidable (store.FailsOnStorage terms
      (fun _ => pure () : List RowId → Action Storage Unit) timeline.storage))
  | .acquireWith store terms callback ending, timeline =>
    inferInstanceAs (Decidable (store.FailsOnStorage terms (doing callback ending) timeline))
  | .storeTerms store entity terms, timeline =>
    inferInstanceAs (Decidable (store.FailsOnStorage terms (replaceLinks entity) timeline.storage))
  | .acquireIds _ _ _ _ _, _ | .clean _ _, _ | .deleteTerms _ _, _ | .connect _ _, _ | .sync _, _
  | .lag _, _ | .distort _, _ => inferInstanceAs (Decidable False)

/-- An interning call for the phrase that fails for lack of a type code. -/
def LacksCode (phrase : Phrase) : Operation → Timeline → Prop
  | .acquire store terms, timeline | .acquireWith store terms _ _, timeline
  | .storeTerms store _ terms, timeline =>
    phrase ∈ terms.facts.map Fact.phrase ∧ store.LacksCode terms timeline.storage
  | _, _ => False

end Operation

end Termbase
