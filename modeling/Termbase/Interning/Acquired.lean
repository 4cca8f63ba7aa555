import Termbase.Number.Digits
import Termbase.Term.TermMap

namespace Termbase

/-- Ids that were lost while their holder linked them and could not be given back to their
texts. -/
structure RestoreMismatch where
  idsToRestore : List RowId
  recordsToInsert : Nat
  deriving DecidableEq, Repr

/-- The ids of a term set, in its shape. With a mismatch, some differ from those that were handed
out first. -/
structure Acquired where
  ids : TermIds
  mismatch : Option RestoreMismatch
  deriving DecidableEq

namespace Acquired

def empty : Acquired := ⟨TermMap.empty, none⟩

/-- The ids, or the mismatch for a caller that takes it as a failure. -/
def result (acquired : Acquired) : Except RestoreMismatch TermIds :=
  match acquired.mismatch with
  | none => .ok acquired.ids
  | some mismatch => .error mismatch

end Acquired

def RestoreMismatch.message (mismatch : RestoreMismatch) : String :=
  "could not restore " ++ String.ofList (Number.digits mismatch.idsToRestore.length) ++
    " term ids (" ++ String.ofList (Number.digits mismatch.recordsToInsert) ++
    " records to insert); fresh ids were assigned"

end Termbase
