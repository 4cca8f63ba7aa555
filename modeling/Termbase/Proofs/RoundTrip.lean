import Termbase.Proofs.Reading
import Termbase.Proofs.Refinement
import Termbase.Proofs.Sparing

namespace Termbase

namespace TermSet

/-- The texts of a type and language if they are wanted. -/
def wanted (terms : TermSet) (selection : Selection) (type : TermType) (language : String) :
    List String :=
  if selection.wants type language then (terms.get? type language).getD [] else []

namespace Sorts

variable {terms : TermSet} {idOf : Fact → RowId} {facts : List Fact} {selection : Selection}
  {type : TermType} {language : String}

end Sorts

end TermSet

section Stored

variable {ledger later : Ledger} {codes : TypeCodes} {storage called after : Storage}
  {entity : EntityId} {terms : TermSet} {given : TermIds} {final : Fact → RowId}

/-- The cleanup that follows takes nothing away from the entity. -/
theorem Ledger.Stores.cleaned
    (stores : ledger.Stores codes storage entity terms given later called final)
    {batch : BatchSize} {removed : List RowId} {report : CleanupReport}
    (run : (clean batch removed).run called = (.ok report, after)) :
    ∃ last : Ledger, last.Sound after ∧
      (∀ fact ∈ terms.facts, last.Knows codes fact .termInLang (final fact)) ∧
      (∀ fact ∈ terms.facts, final fact ∈ after.primary.termInLang.ids) ∧
      (after.primary.links entity.kind).idsOf entity.number = given.ids := by
  obtain ⟨last, hle, sound⟩ := clean_accounted batch removed called later stores.sound
  have spares : called.Spared entity ((clean batch removed).run called).2 :=
    clean_spared batch removed called
  rw [run] at sound spares
  have linked : ∀ id, (entity.number, id) ∈ (called.primary.links entity.kind).pairs ↔
      id ∈ given.ids := by
    intro id
    rw [stores.relinks, if_pos rfl]
  refine ⟨last, sound, fun fact hfact => (stores.known fact hfact).mono hle,
    fun fact hfact => ?_, ?_⟩
  · obtain ⟨record, hrow⟩ := Table.mem_ids.mp (stores.present fact hfact)
    have hlink := (linked _).mpr ((stores.mem_ids _).mpr ⟨fact, hfact, rfl⟩)
    have stays := (spares.uses _ _ (.termInLang hlink hrow)).mem
    exact Table.mem_ids.mpr ⟨record, stays⟩
  · refine ascendingIds_congr fun id => ?_
    change id ∈ (after.primary.links entity.kind).idsOf entity.number ↔ id ∈ given.ids
    rw [Links.mem_idsOf, ← linked]
    exact spares.links id

end Stored

end Termbase
