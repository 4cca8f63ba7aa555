import Termbase.Ascending
import Termbase.Term.TermMap

namespace Termbase

/-- The term ids that the entities of one kind link to, by the numbers of the entities. -/
structure Links where
  pairs : List (UInt32 × RowId)
  pairs_nodup : pairs.Nodup

namespace Links

def empty : Links := ⟨[], by simp⟩

def idsOf (links : Links) (number : UInt32) : List RowId :=
  ascending ((links.pairs.filter fun pair => pair.1 = number).map Prod.snd)

/-- The ids of each of some entities. Entities without links are left out. -/
def idsOfEach (links : Links) (numbers : List UInt32) : List (UInt32 × List RowId) :=
  (numbers.map fun number => (number, links.idsOf number)).filter fun entry => entry.2 ≠ []

def linkedAmong (links : Links) (ids : List RowId) : List RowId :=
  (links.pairs.map Prod.snd).filter fun id => id ∈ ids

/-- Takes away the links of an entity to all but some ids. -/
def retain (links : Links) (number : UInt32) (wanted : List RowId) : Links :=
  ⟨links.pairs.filter fun pair => pair.1 ≠ number ∨ pair.2 ∈ wanted,
    links.pairs_nodup.sublist List.filter_sublist⟩

def add (links : Links) (number : UInt32) (id : RowId) : Links :=
  if h : (number, id) ∈ links.pairs then links
  else
    ⟨links.pairs ++ [(number, id)], by
      rw [List.nodup_append]
      refine ⟨links.pairs_nodup, by simp, fun a ha b hb hab => ?_⟩
      exact h (List.mem_singleton.mp hb ▸ hab ▸ ha)⟩

/-- Makes an entity link to exactly the wanted ids. -/
def replace (links : Links) (number : UInt32) (wanted : List RowId) : Links :=
  wanted.foldl (fun links id => links.add number id) (links.retain number wanted)

end Links

end Termbase
