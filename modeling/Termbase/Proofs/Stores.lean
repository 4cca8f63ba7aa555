import Termbase.Proofs.Actions
import Termbase.Store.Links

namespace Termbase

/-! What holds of the actions that a store is made of holds of the store. -/

section Pipeline

variable {related : Storage → Storage → Prop} {batch : BatchSize} {codes : TypeCodes}

-- Ids are only ever forced at the top level.

theorem internFrom_within (refl : ∀ storage, related storage storage)
    (trans : ∀ a b c, related a b → related b c → related a c)
    (acquired : ∀ source level records forced, (level ≠ .termInLang → forced = none) →
      (acquireIds batch source level records forced).Within related)
    (source : Source) (terms : TermSet) (restoration : Option Restoration) :
    (internFrom codes batch source terms restoration).Within related := by
  unfold internFrom
  refine .bind trans (acquired _ _ _ _ fun _ => rfl) fun texts => ?_
  refine .bind trans (.ofResult refl _) fun records => ?_
  refine .bind trans (acquired _ _ _ _ fun _ => rfl) fun textsInLang => ?_
  refine .bind trans (.ofResult refl _) fun _ => ?_
  refine .bind trans (.ofResult refl _) fun records => ?_
  refine .bind trans (.ofResult refl _) fun forced => ?_
  refine .bind trans (acquired _ _ _ _ fun h => absurd rfl h) fun terms => ?_
  refine .bind trans (.ofResult refl _) fun ids => ?_
  exact .pure refl _

namespace Store

theorem intern_within (trans : ∀ a b c, related a b → related b c → related a c) (store : Store)
    {terms : TermSet} (passes : ∀ source restoration,
      (internFrom store.codes store.batch source terms restoration).Within related) :
    (store.intern terms).Within related := by
  unfold intern
  refine .rescue trans (passes _ _) fun failure other h => ?_
  split at h
  next => exact Option.some.inj h ▸ passes _ _
  next => simp at h

theorem reconcile_within (refl : ∀ storage, related storage storage)
    (trans : ∀ a b c, related a b → related b c → related a c) (store : Store)
    {terms : TermSet} (passes : ∀ source restoration,
      (internFrom store.codes store.batch source terms restoration).Within related)
    (ids : TermIds) : (store.reconcile terms ids).Within related := by
  unfold reconcile
  refine .bind trans (.query refl _ _) fun lost => ?_
  split
  next => exact .pure refl _
  next => exact .bind trans (passes _ _) fun interned => .pure refl _

/-- An interning in its parts: the first half, the callback, and the check of the ids. -/
theorem acquireWith_run {σ : Type} [HasStorage σ] {store : Store} {terms : TermSet}
    (some_terms : ¬terms.isEmpty = true) (callback : List RowId → Action σ Unit) (state : σ) :
    (store.acquireWith terms callback).run state =
      match (store.intern terms).run (HasStorage.storage state) with
      | (.error failure, mid) => (.error failure, HasStorage.withStorage state mid)
      | (.ok interned, mid) =>
        match (callback interned.ids.ids).run (HasStorage.withStorage state mid) with
        | (.error failure, called) => (.error failure, called)
        | (.ok (), called) =>
          match (store.reconcile terms interned.ids).run (HasStorage.storage called) with
          | (outcome, last) => (outcome, HasStorage.withStorage called last) := by
  unfold acquireWith
  rw [if_neg some_terms, Action.run_bind, Action.run_onStorage]
  rcases (store.intern terms).run (HasStorage.storage state) with ⟨failure | interned, mid⟩
  · rfl
  · simp only [Action.run_bind]
    rcases (callback interned.ids.ids).run (HasStorage.withStorage state mid) with
      ⟨failure | ⟨⟩, called⟩
    · rfl
    · rfl

/-- An interning with a callback leads where its two halves and the callback lead. -/
theorem acquireWith_within {σ : Type} [HasStorage σ] {moved : σ → σ → Prop}
    (refl : ∀ state, moved state state) (trans : ∀ a b c, moved a b → moved b c → moved a c)
    (lift : ∀ state after, related (HasStorage.storage state) after →
      moved state (HasStorage.withStorage state after)) {store : Store} {terms : TermSet}
    (interned : (store.intern terms).Within related)
    (reconciled : ∀ ids, (store.reconcile terms ids).Within related)
    {callback : List RowId → Action σ Unit} (called : ∀ ids, (callback ids).Within moved) :
    (store.acquireWith terms callback).Within moved := by
  unfold acquireWith
  split
  next => exact .bind trans (called []) fun _ => .pure refl _
  next =>
    refine .bind trans (.onStorage lift interned) fun interned => ?_
    refine .bind trans (called _) fun _ => ?_
    exact .onStorage lift (reconciled _)

theorem acquire_within (refl : ∀ storage, related storage storage)
    (trans : ∀ a b c, related a b → related b c → related a c) (store : Store)
    {terms : TermSet} (passes : ∀ source restoration,
      (internFrom store.codes store.batch source terms restoration).Within related) :
    (store.acquire terms).Within related :=
  acquireWith_within refl trans (fun _ _ h => h) (intern_within trans store passes)
    (reconcile_within refl trans store passes) fun _ => .pure refl _

/-- Storing terms leads on from where interning them leads. -/
theorem storeTerms_after (refl : ∀ storage, related storage storage)
    (trans : ∀ a b c, related a b → related b c → related a c) {store : Store}
    {entity : EntityId} {terms : TermSet} {storage : Storage}
    (acquired : related storage ((store.acquireWith terms (replaceLinks entity)).run storage).2)
    (linked : ∀ ids, (replaceLinks entity ids).Within related)
    (cleaned : ∀ ids, (clean store.batch ids).Within related) :
    related storage ((store.storeTerms entity terms).run storage).2 := by
  unfold storeTerms linkedIds
  rw [Action.run_bind, Action.run_query]
  refine Action.Within.bind_after trans acquired fun acquired => ?_
  have last : ∀ ids, (do
      let _ ← clean store.batch ids
      return acquired : Action Storage Acquired).Within related :=
    fun ids => .bind trans (cleaned ids) fun _ => .pure refl _
  split
  next => exact .bind trans (linked _) fun _ => last _
  next => exact last _

theorem storeTerms_within (refl : ∀ storage, related storage storage)
    (trans : ∀ a b c, related a b → related b c → related a c) {store : Store}
    {entity : EntityId} {terms : TermSet}
    (acquired : (store.acquireWith terms (replaceLinks entity)).Within related)
    (linked : ∀ ids, (replaceLinks entity ids).Within related)
    (cleaned : ∀ ids, (clean store.batch ids).Within related) :
    (store.storeTerms entity terms).Within related :=
  fun storage => storeTerms_after refl trans (acquired storage) linked cleaned

theorem deleteTerms_within (trans : ∀ a b c, related a b → related b c → related a c)
    (store : Store) (entity : EntityId) (unlinked : (removeLinks entity).Within related)
    (cleaned : ∀ ids, (clean store.batch ids).Within related) :
    (store.deleteTerms entity).Within related :=
  .bind trans unlinked cleaned

theorem connect_within (refl : ∀ storage, related storage storage)
    (trans : ∀ a b c, related a b → related b c → related a c)
    (registered : ∀ types, (registerTypes types).Within related) (source : Source) :
    (connect source batch).Within related := by
  unfold connect loadCodes
  refine .bind trans (.bind trans (registered _) fun _ => .query refl _ _) fun _ => .pure refl _

end Store

end Pipeline

theorem registerTypes_within {related : Storage → Storage → Prop}
    (refl : ∀ storage, related storage storage)
    (trans : ∀ a b c, related a b → related b c → related a c)
    (coded : ∀ storage codes,
      related storage { storage with primary := { storage.primary with typeCodes := codes } })
    (types : List TermType) : (registerTypes types).Within related := by
  unfold registerTypes
  induction types with
  | nil => exact .pure refl _
  | cons type types ih =>
    change (Action.transact _ >>= fun _ => types.forM _).Within related
    refine .bind trans (.transact refl fun storage result primary h => ?_) fun _ => ih
    split at h
    next codes _ =>
      have he := (Prod.mk.inj (Except.ok.inj h)).2
      exact he ▸ coded storage codes
    next => simp at h

theorem clean_within {related : Storage → Storage → Prop} {batch : BatchSize}
    (refl : ∀ storage, related storage storage)
    (cleaned : ∀ storage ids,
      related storage { storage with primary := (storage.primary.clean batch ids).2 })
    (ids : List RowId) : (clean batch ids).Within related := by
  unfold clean
  split
  next => exact .pure refl _
  next =>
    refine .transact refl fun storage result primary h => ?_
    have he : (storage.primary.clean batch ids).2 = primary :=
      congrArg Prod.snd (Except.ok.inj h)
    exact he ▸ cleaned storage ids

end Termbase
