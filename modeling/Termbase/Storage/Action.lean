import Termbase.Failure
import Termbase.Storage.Database

namespace Termbase

/-- A computation that changes a state and may fail. What it has changed before it fails stays
changed. -/
def Action (σ α : Type) : Type := σ → Except Failure α × σ

namespace Action

variable {σ α β : Type}

def run (action : Action σ α) (state : σ) : Except Failure α × σ := action state

def andThen (action : Action σ α) (next : α → Action σ β) : Action σ β := fun state =>
  match action state with
  | (.ok result, after) => next result after
  | (.error failure, after) => (.error failure, after)

instance : Monad (Action σ) where
  pure result := fun state => (.ok result, state)
  bind := andThen

theorem run_pure (result : α) (state : σ) :
    (pure result : Action σ α).run state = (.ok result, state) := rfl

theorem run_bind (action : Action σ α) (next : α → Action σ β) (state : σ) :
    (action >>= next).run state =
      match action.run state with
      | (.ok result, after) => (next result).run after
      | (.error failure, after) => (.error failure, after) := rfl

instance : LawfulMonad (Action σ) := LawfulMonad.mk' _
  (fun action => funext fun state => by
    change (match action state with
      | (.ok result, after) => (.ok result, after)
      | (.error failure, after) => (.error failure, after)) = action state
    rcases action state with ⟨_ | _, _⟩ <;> rfl)
  (fun _ _ => rfl)
  (fun action _ _ => funext fun state => by
    change andThen (andThen action _) _ state = andThen action _ state
    unfold andThen
    rcases action state with ⟨_ | _, _⟩ <;> rfl)

def ofResult (result : Except Failure α) : Action σ α := fun state => (result, state)

def fail (failure : Failure) : Action σ α := ofResult (.error failure)

def read (view : σ → α) : Action σ α := fun state => (.ok (view state), state)

def update (change : σ → σ) : Action σ Unit := fun state => (.ok (), change state)

/-- Goes on after a failure if there is a way to do so. -/
def rescue (action : Action σ α) (handler : Failure → Option (Action σ α)) : Action σ α :=
  fun state =>
    match action state with
    | (.ok result, after) => (.ok result, after)
    | (.error failure, after) =>
      match handler failure with
      | some other => other after
      | none => (.error failure, after)

def query (source : Source) (view : Database → α) : Action Storage α :=
  read fun storage => view (storage.database source)

/-- Changes the primary as a whole or, when the change fails, not at all. -/
def transact (change : Database → Except Failure (α × Database)) : Action Storage α :=
  fun storage =>
    match change storage.primary with
    | .ok (result, primary) => (.ok result, { storage with primary := primary })
    | .error failure => (.error failure, storage)

end Action

class HasStorage (σ : Type) where
  storage : σ → Storage
  withStorage : σ → Storage → σ
  storage_withStorage : ∀ state stored, storage (withStorage state stored) = stored
  withStorage_storage : ∀ state, withStorage state (storage state) = state
  withStorage_withStorage : ∀ state first second,
    withStorage (withStorage state first) second = withStorage state second

instance : HasStorage Storage := ⟨id, fun _ stored => stored, fun _ _ => rfl, fun _ => rfl,
  fun _ _ _ => rfl⟩

def Action.onStorage {σ α : Type} [HasStorage σ] (action : Action Storage α) : Action σ α :=
  fun state =>
    match action (HasStorage.storage state) with
    | (result, stored) => (result, HasStorage.withStorage state stored)

end Termbase
