import Termbase.Proofs.Agreement
import Termbase.Proofs.Sweeping

namespace Termbase

/-- The replica has the same rows as the primary. -/
def Storage.Synced (storage : Storage) : Prop :=
  ∀ level row, row ∈ (storage.replica.table level).rows ↔ row ∈ (storage.primary.table level).rows

theorem Storage.sync_synced (storage : Storage) : (storage.sync Part.all).Synced := by
  intro level row
  cases level <;> exact Iff.rfl

namespace Storage.Synced

theorem readsAlike {storage : Storage} (synced : storage.Synced) (source other : Source)
    (level : Level) : storage.ReadsAlike source other level := by
  intro row
  cases source with
  | primary =>
    cases other with
    | primary => exact Iff.rfl
    | replica => exact (synced level row).symm
  | replica =>
    cases other with
    | primary => exact synced level row
    | replica => exact Iff.rfl

end Storage.Synced

/-- With a synced replica it cannot be told which of the databases a store reads, although its
later steps read a replica that lacks what the earlier ones have added. The batch sizes of the two
stores may differ as long as no statement is refused with only one of them. The ids of records may
be listed in another order. -/
theorem synced_replica_indistinguishable {storage : Storage} (synced : storage.Synced)
    {store direct : Store} (codes : store.codes = direct.codes)
    (sizes : store.batch.Alike direct.batch) :
    (∀ terms, (store.acquire terms).run storage = (direct.acquire terms).run storage) ∧
    (∀ entity terms, (store.storeTerms entity terms).run storage =
      (direct.storeTerms entity terms).run storage) ∧
    (∀ entity, (store.deleteTerms entity).run storage = (direct.deleteTerms entity).run storage) ∧
    (∀ ids, (clean store.batch ids).run storage = (clean direct.batch ids).run storage) ∧
    ∀ level records forced, Action.AgreeAt storage RecordIds.Alike
      (acquireIds store.batch store.source level records forced)
      (acquireIds direct.batch direct.source level records forced) := by
  have reads := synced.readsAlike store.source direct.source
  refine ⟨fun terms => (Store.acquireWith_agree codes (Or.inl sizes) reads terms _).run_eq,
    fun entity terms => (Store.storeTerms_agree codes (Or.inl sizes) reads entity terms).run_eq,
    fun entity => ?_, fun ids => ?_, fun level records forced => ?_⟩
  · rw [Store.deleteTerms_batch store direct]
  · rw [clean_batch store.batch direct.batch]
  · exact (acquireIds_agree (Or.inl sizes) (reads level) records forced).agreeAt

/-- The text is known, and its row in the new language is added by the run itself. -/
theorem synced_replica_indistinguishable_manifold :
    (manifoldStorage.sync Part.all).Synced ∧ laggingStore.codes = directStore.codes ∧
      laggingStore.batch.Alike directStore.batch ∧
      (laggingStore.acquire (TermMap.empty.put .label "fr" ["cat"])).run
          (manifoldStorage.sync Part.all) =
        (directStore.acquire (TermMap.empty.put .label "fr" ["cat"])).run
          (manifoldStorage.sync Part.all) ∧
      ((directStore.acquire (TermMap.empty.put .label "fr" ["cat"])).run
        (manifoldStorage.sync Part.all)).2.primary.textInLang.ids = [1, 2, 3] := by
  have synced := manifoldStorage.sync_synced
  have codes : laggingStore.codes = directStore.codes := rfl
  have sizes : laggingStore.batch.Alike directStore.batch := .refl _
  exact ⟨synced, codes, sizes, (synced_replica_indistinguishable synced codes sizes).1 _,
    by decide +kernel⟩

end Termbase
