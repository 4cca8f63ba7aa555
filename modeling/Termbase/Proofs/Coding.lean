import Termbase.Proofs.Denoting
import Termbase.Proofs.Tables

namespace Termbase

theorem TermType.name_of_ofName? {name : String} {type : TermType}
    (h : TermType.ofName? name = some type) : type.name = name := by
  have hfound := List.find?_some h
  exact of_decide_eq_true hfound

theorem TermType.name_injective {first second : TermType} (h : first.name = second.name) :
    first = second := by
  cases first <;> cases second <;> first | rfl | exact absurd h (by decide)

theorem TypeCodes.get?_set {codes : TypeCodes} {type other : TermType} {code : RowId} :
    (codes.set type code).get? other = if other = type then some code else codes.get? other := by
  cases type <;> cases other <;> rfl

theorem TypeCodes.find?_of_get? {codes : TypeCodes} {type : TermType} {code : RowId}
    (h : codes.get? type = some code) :
    ∃ found, (TermType.all.find? fun type => codes.get? type = some code) = some found ∧
      codes.get? found = some code := by
  cases hfind : TermType.all.find? fun type => codes.get? type = some code with
  | some found => exact ⟨found, rfl, by simpa using List.find?_some hfind⟩
  | none =>
    have hnot := List.find?_eq_none.mp hfind type (by cases type <;> simp [TermType.all])
    simp [h] at hnot

theorem TypeCodes.get?_of_typeOf {codes : TypeCodes} {type : TermType} {code : RowId}
    (h : codes.typeOf code = .ok type) : codes.get? type = some code := by
  unfold typeOf at h
  split at h
  next found hfound =>
    cases Except.ok.inj h
    simpa using List.find?_some hfound
  next => cases h

theorem TypeCodes.typeOf_error {codes : TypeCodes} {code : RowId} {failure : Failure}
    (h : codes.typeOf code = .error failure) :
    failure = .unknownTypeCode code ∧ ∀ type, codes.get? type ≠ some code := by
  unfold typeOf at h
  split at h
  next => cases h
  next hnone =>
    refine ⟨(Except.error.inj h).symm, fun type htype => ?_⟩
    obtain ⟨found, hfound, _⟩ := find?_of_get? htype
    exact Option.some_ne_none _ (hfound.symm.trans hnone)

theorem TypeCodes.mem_of_get?_ofPairs {pairs : List (TermType × RowId)} {type : TermType}
    {code : RowId} (h : (TypeCodes.ofPairs pairs).get? type = some code) :
    (type, code) ∈ pairs := by
  suffices general : ∀ (pairs : List (TermType × RowId)) (start : TypeCodes),
      (pairs.foldl (fun codes pair => codes.set pair.1 pair.2) start).get? type = some code →
      start.get? type = some code ∨ (type, code) ∈ pairs by
    rcases general pairs TypeCodes.empty h with h | h
    · cases type <;> simp [TypeCodes.empty, TypeCodes.get?] at h
    · exact h
  intro pairs
  induction pairs with
  | nil => exact fun _ h => Or.inl h
  | cons pair pairs ih =>
    intro start h
    rcases ih _ h with h | h
    · rw [TypeCodes.get?_set] at h
      split at h
      next same =>
        cases Option.some.inj h
        exact Or.inr (same ▸ List.mem_cons_self)
      next => exact Or.inl h
    · exact Or.inr (List.mem_cons_of_mem _ h)

theorem Database.mem_of_get?_knownCodes {db : Database} {type : TermType} {code : RowId}
    (h : db.knownCodes.get? type = some code) : (code, type.name) ∈ db.typeCodes.rows := by
  obtain ⟨row, hrow, he⟩ := List.mem_filterMap.mp (TypeCodes.mem_of_get?_ofPairs h)
  obtain ⟨found, hfound, he⟩ := Option.map_eq_some_iff.mp he
  obtain ⟨rfl, rfl⟩ := Prod.mk.inj he
  rw [TermType.name_of_ofName? hfound]
  exact hrow

/-- The codes that are read off a table are different for different types. -/
theorem Database.knownCodes_distinct (db : Database) : db.knownCodes.Distinct := by
  intro first second code hfirst hsecond
  have hrow := mem_of_get?_knownCodes hfirst
  exact TermType.name_injective (Table.record_unique hrow (mem_of_get?_knownCodes hsecond))

theorem registerType_ok {type : TermType} {types : List TermType} {storage after : Storage}
    (h : (registerTypes (type :: types)).run storage = (.ok (), after)) :
    ∃ codes, storage.primary.typeCodes.insertNext type.name = some codes ∧
      (registerTypes types).run
        { storage with primary := { storage.primary with typeCodes := codes } } =
          (.ok (), after) := by
  change (Action.transact _ >>= fun _ => registerTypes types).run storage = _ at h
  cases hinsert : storage.primary.typeCodes.insertNext type.name with
  | none =>
    rw [Action.run_bind, Action.run_transact_error (by rw [hinsert])] at h
    simp at h
  | some codes =>
    rw [Action.run_bind, Action.run_transact_ok (by rw [hinsert])] at h
    exact ⟨codes, rfl, h⟩

/-- Registering types changes nothing but the type codes, and adds no row for a type that is
there. -/
theorem registerTypes_ok {types : List TermType} {storage after : Storage}
    (h : (registerTypes types).run storage = (.ok (), after)) :
    ∃ codes, after = { storage with primary := { storage.primary with typeCodes := codes } } ∧
      (∀ row ∈ storage.primary.typeCodes.rows, row ∈ codes.rows) ∧
      (∀ type ∈ types, type.name ∈ codes.records) ∧
      ((∀ type ∈ types, type.name ∈ storage.primary.typeCodes.records) →
        codes.rows = storage.primary.typeCodes.rows) := by
  induction types generalizing storage with
  | nil =>
    have hafter : storage = after := (Prod.mk.inj h).2
    subst hafter
    exact ⟨storage.primary.typeCodes, rfl, fun _ hrow => hrow, by simp, fun _ => rfl⟩
  | cons type types ih =>
    obtain ⟨first, hinsert, hrest⟩ := registerType_ok h
    obtain ⟨codes, rfl, rows, named, unchanged⟩ := ih hrest
    have hinsert' : storage.primary.typeCodes.insert type.name none = some first := hinsert
    obtain ⟨hextends, hmem⟩ := Table.insert_extends hinsert'
    refine ⟨codes, rfl, fun row hrow => rows row (hextends.mem hrow), fun other hother => ?_, ?_⟩
    · rcases List.mem_cons.mp hother with rfl | hother
      · obtain ⟨id, hrow⟩ := Table.mem_records.mp hmem
        exact Table.mem_records.mpr ⟨id, rows _ hrow⟩
      · exact named other hother
    · intro registered
      have hthere := registered type List.mem_cons_self
      obtain ⟨_, ⟨_, hrows⟩ | ⟨habsent, _⟩⟩ := Table.insertNext_cases hinsert
      · have hrecords : first.records = storage.primary.typeCodes.records := by
          unfold Table.records
          rw [hrows]
        refine (unchanged fun other hother => ?_).trans hrows
        rw [hrecords]
        exact registered other (List.mem_cons_of_mem _ hother)
      · exact absurd hthere habsent

/-- A store that has been opened has the codes of the primary, in which every type has one. -/
theorem connect_ok {source : Source} {batch : BatchSize} {storage after : Storage} {store : Store}
    (h : (Store.connect source batch).run storage = (.ok store, after)) :
    store = ⟨source, after.primary.knownCodes, batch⟩ ∧
      ∃ codes, after = { storage with primary := { storage.primary with typeCodes := codes } } ∧
        (∀ type : TermType, type.name ∈ codes.records) ∧
        ((∀ type : TermType, type.name ∈ storage.primary.typeCodes.records) →
          codes.rows = storage.primary.typeCodes.rows) := by
  unfold Store.connect loadCodes at h
  obtain ⟨found, last, hload, h⟩ := Action.bind_ok h
  obtain ⟨_, registered, hregister, hquery⟩ := Action.bind_ok hload
  obtain ⟨hfound, hlast⟩ := Prod.mk.inj hquery
  cases Except.ok.inj hfound
  cases hlast
  obtain ⟨hstore, hafter⟩ := Prod.mk.inj h
  cases Except.ok.inj hstore
  cases hafter
  obtain ⟨codes, rfl, _, named, unchanged⟩ := registerTypes_ok hregister
  have every : ∀ type : TermType, type ∈ TermType.all := by
    intro type
    cases type <;> simp [TermType.all]
  exact ⟨rfl, codes, rfl, fun type => named type (every type),
    fun there => unchanged fun type _ => there type⟩

theorem Database.knownCodes_congr {db other : Database}
    (h : db.typeCodes.rows = other.typeCodes.rows) : db.knownCodes = other.knownCodes := by
  unfold knownCodes
  rw [h]

end Termbase
