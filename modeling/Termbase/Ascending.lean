namespace Termbase

/-- Puts an element into its place in an ascending list, unless it is there already. -/
def insertAscending {α : Type} [LT α] [DecidableLT α] [DecidableEq α] (x : α) : List α → List α
  | [] => [x]
  | y :: ys =>
    if x < y then x :: y :: ys
    else if x = y then y :: ys
    else y :: insertAscending x ys

/-- The distinct elements of a list in ascending order. -/
def ascending {α : Type} [LT α] [DecidableLT α] [DecidableEq α] (xs : List α) : List α :=
  xs.foldr insertAscending []

/-- Keeps the first of the pairs with the same key. -/
def firstPerKey {κ α : Type} [DecidableEq κ] : List (κ × α) → List (κ × α)
  | [] => []
  | x :: xs => x :: (firstPerKey xs).filter fun y => y.1 ≠ x.1

/-- Keeps the first of the elements with the same key, in their order. -/
def distinctOn {κ α : Type} [DecidableEq κ] (key : α → κ) (xs : List α) : List α :=
  (firstPerKey (xs.map fun x => (key x, x))).map Prod.snd

/-- Gives a key its value in an association list, in place of an earlier one. -/
def assign {κ α : Type} [DecidableEq κ] (key : κ) (value : α) : List (κ × α) → List (κ × α)
  | [] => [(key, value)]
  | entry :: entries =>
    if entry.1 = key then (key, value) :: entries else entry :: assign key value entries

theorem assign_keys_subset {κ α : Type} [DecidableEq κ] {key k : κ} {value : α}
    {entries : List (κ × α)} (h : k ∈ (assign key value entries).map Prod.fst) :
    k = key ∨ k ∈ entries.map Prod.fst := by
  induction entries with
  | nil => simpa [assign] using h
  | cons entry entries ih =>
    unfold assign at h
    split at h
    next => simp only [List.map_cons, List.mem_cons] at h ⊢; exact h.imp_right Or.inr
    next =>
      simp only [List.map_cons, List.mem_cons] at h ⊢
      rcases h with h | h
      · exact Or.inr (Or.inl h)
      · exact (ih h).imp_right Or.inr

theorem assign_keys_nodup {κ α : Type} [DecidableEq κ] {key : κ} {value : α}
    {entries : List (κ × α)} (h : (entries.map Prod.fst).Nodup) :
    ((assign key value entries).map Prod.fst).Nodup := by
  induction entries with
  | nil => simp [assign]
  | cons entry entries ih =>
    obtain ⟨fresh, rest⟩ := List.nodup_cons.mp (List.map_cons ▸ h)
    unfold assign
    split
    next same => exact List.nodup_cons.mpr ⟨same ▸ fresh, rest⟩
    next other =>
      refine List.nodup_cons.mpr ⟨fun hm => ?_, ih rest⟩
      exact (assign_keys_subset hm).elim other fresh

end Termbase
