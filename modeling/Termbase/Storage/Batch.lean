import Termbase.Failure

namespace Termbase

/-- How many rows one statement deals with. -/
structure BatchSize where
  rows : Nat
  rows_pos : 0 < rows

namespace BatchSize

def ofNat (rows : Nat) : Except Failure BatchSize :=
  if h : 0 < rows then .ok ⟨rows, h⟩ else .error (.invalidBatchSize rows)

variable {α β : Type}

/-- Cuts a list into batches. All but the last are full. -/
def split (size : BatchSize) : List α → List (List α)
  | [] => []
  | x :: xs => (x :: xs).take size.rows :: size.split ((x :: xs).drop size.rows)
termination_by xs => xs.length
decreasing_by
  have := size.rows_pos
  simp only [List.length_drop, List.length_cons]
  omega

def collect (size : BatchSize) (query : List α → List β) (xs : List α) : List β :=
  (size.split xs).flatMap query

/-- Collects what a query gives that may fail. The first failure ends it. -/
def collectM (size : BatchSize) (query : List α → Except Failure (List β)) (xs : List α) :
    Except Failure (List β) := do
  return (← (size.split xs).mapM query).flatten

theorem flatten_split (size : BatchSize) (xs : List α) : (size.split xs).flatten = xs := by
  fun_induction split size xs with
  | case1 => rfl
  | case2 x xs ih => rw [List.flatten_cons, ih, List.take_append_drop]

theorem mem_collect {size : BatchSize} {query : List α → List β} {p : α → β → Prop} {y : β}
    (each : ∀ chunk, y ∈ query chunk ↔ ∃ x ∈ chunk, p x y) {xs : List α} :
    y ∈ size.collect query xs ↔ ∃ x ∈ xs, p x y := by
  constructor
  · intro h
    obtain ⟨chunk, hchunk, hy⟩ := List.mem_flatMap.mp h
    obtain ⟨x, hx, hxy⟩ := (each chunk).mp hy
    refine ⟨x, ?_, hxy⟩
    rw [← size.flatten_split xs]
    exact List.mem_flatten.mpr ⟨chunk, hchunk, hx⟩
  · rintro ⟨x, hx, hxy⟩
    rw [← size.flatten_split xs] at hx
    obtain ⟨chunk, hchunk, hx⟩ := List.mem_flatten.mp hx
    exact List.mem_flatMap.mpr ⟨chunk, hchunk, (each chunk).mpr ⟨x, hx, hxy⟩⟩

end BatchSize

end Termbase
