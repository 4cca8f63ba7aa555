import Termbase.Storage.Action

namespace Termbase.Action

variable {σ α β : Type}

@[simp]
theorem run_ofResult (result : Except Failure α) (state : σ) :
    (ofResult result).run state = (result, state) := rfl

@[simp]
theorem run_query (source : Source) (view : Database → α) (storage : Storage) :
    (query source view).run storage = (.ok (view (storage.database source)), storage) := rfl

theorem run_transact_ok {change : Database → Except Failure (α × Database)} {storage : Storage}
    {result : α} {primary : Database} (h : change storage.primary = .ok (result, primary)) :
    (transact change).run storage = (.ok result, { storage with primary := primary }) := by
  simp only [run, transact, h]

theorem run_transact_error {change : Database → Except Failure (α × Database)} {storage : Storage}
    {failure : Failure} (h : change storage.primary = .error failure) :
    (transact change).run storage = (.error failure, storage) := by
  simp only [run, transact, h]

theorem run_onStorage [HasStorage σ] (action : Action Storage α) (state : σ) :
    (onStorage action).run state = ((action.run (HasStorage.storage state)).1,
      HasStorage.withStorage state (action.run (HasStorage.storage state)).2) := rfl

theorem run_rescue (action : Action σ α) (handler : Failure → Option (Action σ α)) (state : σ) :
    (action.rescue handler).run state = match action.run state with
      | (.ok result, after) => (.ok result, after)
      | (.error failure, after) => match handler failure with
        | some other => other.run after
        | none => (.error failure, after) := by
  unfold run rescue
  rcases action state with ⟨_ | _, _⟩ <;> rfl

theorem bind_cases {action : Action σ α} {next : α → Action σ β} {state after : σ}
    {outcome : Except Failure β} (h : (action >>= next).run state = (outcome, after)) :
    (∃ failure, action.run state = (.error failure, after) ∧ outcome = .error failure) ∨
      ∃ x between, action.run state = (.ok x, between) ∧
        (next x).run between = (outcome, after) := by
  rw [run_bind] at h
  split at h
  next x between hx => exact Or.inr ⟨x, between, hx, h⟩
  next failure between hf =>
    obtain ⟨rfl, rfl⟩ := Prod.mk.inj h
    exact Or.inl ⟨failure, hf, rfl⟩

theorem bind_ok {action : Action σ α} {next : α → Action σ β} {state after : σ} {result : β}
    (h : (action >>= next).run state = (.ok result, after)) :
    ∃ x between, action.run state = (.ok x, between) ∧
      (next x).run between = (.ok result, after) := by
  rcases bind_cases h with ⟨_, _, hf⟩ | h
  · simp at hf
  · exact h

/-- An action that leads from each state to a related one only, whether it fails or not. -/
def Within (related : σ → σ → Prop) (action : Action σ α) : Prop :=
  ∀ state, related state (action.run state).2

namespace Within

variable {related : σ → σ → Prop}

theorem ofResult (refl : ∀ state, related state state) (result : Except Failure α) :
    (Action.ofResult result).Within related :=
  fun state => refl state

theorem pure (refl : ∀ state, related state state) (result : α) :
    (Pure.pure result : Action σ α).Within related :=
  fun state => refl state

theorem bind_after (trans : ∀ a b c, related a b → related b c → related a c)
    {action : Action σ α} {next : α → Action σ β} {state : σ}
    (first : related state (action.run state).2) (second : ∀ x, (next x).Within related) :
    related state ((action >>= next).run state).2 := by
  rw [run_bind]
  split
  next x between hx =>
    rw [hx] at first
    exact trans _ _ _ first (second x between)
  next failure between hf =>
    rw [hf] at first
    exact first

theorem bind (trans : ∀ a b c, related a b → related b c → related a c) {action : Action σ α}
    {next : α → Action σ β} (first : action.Within related)
    (second : ∀ x, (next x).Within related) : (action >>= next).Within related :=
  fun state => bind_after trans (first state) second

theorem ofResult_bind (refl : ∀ state, related state state) {result : Except Failure α}
    {next : α → Action σ β} (h : ∀ x, result = .ok x → (next x).Within related) :
    (Action.ofResult result >>= next).Within related := by
  cases result with
  | error failure => exact refl
  | ok x => exact h x rfl

theorem rescue (trans : ∀ a b c, related a b → related b c → related a c) {action : Action σ α}
    {handler : Failure → Option (Action σ α)} (first : action.Within related)
    (second : ∀ failure other, handler failure = some other → other.Within related) :
    (action.rescue handler).Within related := by
  intro state
  have hfirst := first state
  unfold run Action.rescue
  unfold run at hfirst
  split
  next x between hx =>
    rw [hx] at hfirst
    exact hfirst
  next failure between hf =>
    rw [hf] at hfirst
    split
    next other hother => exact trans _ _ _ hfirst (second failure other hother between)
    next => exact hfirst

theorem query {related : Storage → Storage → Prop} (refl : ∀ storage, related storage storage)
    (source : Source) (view : Database → α) : (Action.query source view).Within related :=
  fun storage => refl storage

theorem transact {related : Storage → Storage → Prop} (refl : ∀ storage, related storage storage)
    {change : Database → Except Failure (α × Database)}
    (changed : ∀ storage result primary, change storage.primary = .ok (result, primary) →
      related storage { storage with primary := primary }) :
    (Action.transact change).Within related := by
  intro storage
  cases hchange : change storage.primary with
  | error failure =>
    rw [run_transact_error hchange]
    exact refl storage
  | ok result =>
    rw [run_transact_ok hchange]
    exact changed storage result.1 result.2 hchange

theorem onStorage [HasStorage σ] {stored : Storage → Storage → Prop} {action : Action Storage α}
    (lift : ∀ state after, stored (HasStorage.storage state) after →
      related state (HasStorage.withStorage state after))
    (h : action.Within stored) : (Action.onStorage action : Action σ α).Within related := by
  intro state
  rw [run_onStorage]
  exact lift state _ (h (HasStorage.storage state))

end Within

end Termbase.Action
