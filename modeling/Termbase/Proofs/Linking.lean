import Termbase.Proofs.Databases
import Termbase.Store.Links

namespace Termbase

namespace Links

variable {links : Links} {batch : BatchSize}

theorem mem_idsOf {number : UInt32} {id : RowId} :
    id ∈ links.idsOf number ↔ (number, id) ∈ links.pairs := by
  unfold idsOf
  rw [mem_ascending]
  constructor
  · intro h
    obtain ⟨pair, hpair, rfl⟩ := List.mem_map.mp h
    obtain ⟨hmem, hnumber⟩ := List.mem_filter.mp hpair
    cases of_decide_eq_true hnumber
    exact hmem
  · intro h
    exact List.mem_map.mpr ⟨(number, id), List.mem_filter.mpr ⟨h, decide_eq_true rfl⟩, rfl⟩

theorem mem_retain {number : UInt32} {wanted : List RowId} {pair : UInt32 × RowId} :
    pair ∈ (links.retain number wanted).pairs ↔
      pair ∈ links.pairs ∧ (pair.1 ≠ number ∨ pair.2 ∈ wanted) := by
  unfold retain
  rw [List.mem_filter, decide_eq_true_eq]

theorem mem_add {number : UInt32} {id : RowId} {pair : UInt32 × RowId} :
    pair ∈ (links.add number id).pairs ↔ pair ∈ links.pairs ∨ pair = (number, id) := by
  unfold add
  split
  next h =>
    refine ⟨Or.inl, fun hor => hor.elim (fun h => h) ?_⟩
    rintro rfl
    exact h
  next => rw [List.mem_append, List.mem_singleton]

theorem mem_replace {number : UInt32} {wanted : List RowId} {pair : UInt32 × RowId} :
    pair ∈ (links.replace number wanted).pairs ↔
      pair.1 ≠ number ∧ pair ∈ links.pairs ∨ pair.1 = number ∧ pair.2 ∈ wanted := by
  have fold : ∀ (ids : List RowId) (start : Links),
      pair ∈ (ids.foldl (fun links id => links.add number id) start).pairs ↔
        pair ∈ start.pairs ∨ pair.1 = number ∧ pair.2 ∈ ids := by
    intro ids
    induction ids with
    | nil => simp
    | cons id ids ih =>
      intro start
      rw [List.foldl_cons, ih, mem_add, Prod.ext_iff, List.mem_cons, or_assoc, ← and_or_left]
  unfold replace
  rw [fold, mem_retain]
  constructor
  · rintro (⟨hpair, hother | hwanted⟩ | hnew)
    · exact Or.inl ⟨hother, hpair⟩
    · by_cases same : pair.1 = number
      · exact Or.inr ⟨same, hwanted⟩
      · exact Or.inl ⟨same, hpair⟩
    · exact Or.inr hnew
  · rintro (⟨hother, hpair⟩ | hnew)
    · exact Or.inl ⟨hpair, Or.inl hother⟩
    · exact Or.inr hnew

theorem mem_linkedAmong {ids : List RowId} {id : RowId} :
    id ∈ batch.collect links.linkedAmong ids ↔
      id ∈ ids ∧ ∃ number, (number, id) ∈ links.pairs := by
  rw [BatchSize.mem_collect (p := fun x y => x = y ∧ ∃ number, (number, y) ∈ links.pairs)]
  · exact ⟨fun ⟨_, hx, he, hpair⟩ => ⟨he ▸ hx, hpair⟩, fun ⟨hx, hpair⟩ => ⟨id, hx, rfl, hpair⟩⟩
  · intro chunk
    unfold linkedAmong
    rw [List.mem_filter, decide_eq_true_eq]
    constructor
    · rintro ⟨hid, hx⟩
      obtain ⟨pair, hpair, rfl⟩ := List.mem_map.mp hid
      exact ⟨pair.2, hx, rfl, pair.1, hpair⟩
    · rintro ⟨_, hx, rfl, number, hpair⟩
      exact ⟨List.mem_map.mpr ⟨_, hpair, rfl⟩, hx⟩

end Links

/-- Some entity links to the id. -/
def Database.Linked (db : Database) (id : RowId) : Prop :=
  ∃ kind number, (number, id) ∈ (db.links kind).pairs

theorem Database.mem_unlinked {db : Database} {batch : BatchSize} {ids : List RowId} {id : RowId} :
    id ∈ db.unlinked batch ids ↔ id ∈ ids ∧ ¬db.Linked id := by
  have hlinked : (id ∈ EntityKind.all.flatMap fun kind =>
      batch.collect (db.links kind).linkedAmong ids) ↔ id ∈ ids ∧ db.Linked id := by
    rw [List.mem_flatMap]
    constructor
    · rintro ⟨kind, _, hid⟩
      obtain ⟨hmem, number, hpair⟩ := Links.mem_linkedAmong.mp hid
      exact ⟨hmem, kind, number, hpair⟩
    · rintro ⟨hmem, kind, number, hpair⟩
      refine ⟨kind, by cases kind <;> simp [EntityKind.all], ?_⟩
      exact Links.mem_linkedAmong.mpr ⟨hmem, number, hpair⟩
  unfold unlinked
  simp only
  rw [mem_ascending, List.mem_filter, decide_eq_true_eq, hlinked]
  exact ⟨fun ⟨h, hn⟩ => ⟨h, fun hl => hn ⟨h, hl⟩⟩, fun ⟨h, hn⟩ => ⟨h, fun hl => hn hl.2⟩⟩

end Termbase
