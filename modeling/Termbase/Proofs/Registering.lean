import Termbase.Proofs.Coding
import Termbase.Proofs.Gaining
import Termbase.Proofs.Shaping

namespace Termbase

theorem nextId?_isSome_iff {id : RowId} :
    (∃ next, nextId? id = some next) ↔ id.toInt + 1 ≤ Int64.maxValue.toInt := by
  have hmax : Int64.maxValue.toInt = 9223372036854775807 := rfl
  have hhigh := Int64.toInt_lt id
  unfold nextId?
  split
  next last =>
    rw [last, hmax]
    exact iff_of_false nofun (by omega)
  next notLast =>
    have hne : id.toInt ≠ 9223372036854775807 := fun he => notLast (Int64.toInt_inj.mp he)
    exact iff_of_true ⟨_, rfl⟩ (by omega)

namespace Table

variable {ρ : Type} [DecidableEq ρ] {table larger : Table ρ}

/-- The next id is used up, whether the record is there already or not. -/
theorem lastId_insertNext {record : ρ} (h : table.insertNext record = some larger) :
    larger.lastId.toInt = table.lastId.toInt + 1 := by
  obtain ⟨id, hid, rfl⟩ := Option.map_eq_some_iff.mp h
  have hlast : (table.insertAt id record).lastId = laterId table.lastId id := by
    unfold insertAt
    split <;> rfl
  rw [hlast, laterId, if_pos (lt_of_nextId? hid), toInt_nextId? hid]

/-- There is room for records just when there is an id left for each of them. -/
theorem insertAll_isSome_iff {records : List ρ} :
    (∃ larger, table.insertAll (records.map fun record => (record, none)) = some larger) ↔
      table.lastId.toInt + records.length ≤ Int64.maxValue.toInt := by
  induction records generalizing table with
  | nil =>
    have hmax : Int64.maxValue.toInt = 9223372036854775807 := rfl
    have hhigh := Int64.toInt_lt table.lastId
    refine iff_of_true ⟨table, rfl⟩ ?_
    simp only [List.length_nil, Int.natCast_zero]
    omega
  | cons record records ih =>
    constructor
    · rintro ⟨larger, h⟩
      obtain ⟨between, hinsert, hrest⟩ := insertAll_cons h
      have hroom := ih.mp ⟨larger, hrest⟩
      have hlast := lastId_insertNext hinsert
      rw [List.length_cons]
      omega
    · intro hroom
      rw [List.length_cons] at hroom
      obtain ⟨next, hnext⟩ := nextId?_isSome_iff.mpr (show _ ≤ _ by omega : table.lastId.toInt + 1 ≤ _)
      have hinsert : table.insertNext record = some (table.insertAt next record) := by
        unfold insertNext
        rw [hnext]
        rfl
      have hlast := lastId_insertNext hinsert
      obtain ⟨larger, hlarger⟩ := ih.mpr (show _ ≤ _ by omega :
        (table.insertAt next record).lastId.toInt + records.length ≤ _)
      refine ⟨larger, ?_⟩
      unfold insertAll at hlarger ⊢
      rw [List.map_cons, List.foldlM_cons]
      exact Option.bind_eq_some_iff.mpr ⟨_, hinsert, hlarger⟩

end Table

/-- The storage with other type codes. -/
def Storage.withTypeCodes (storage : Storage) (codes : Table String) : Storage :=
  { storage with primary := { storage.primary with typeCodes := codes } }

/-- The rows to add for some types. -/
def rowsOfTypes (types : List TermType) : List (String × Option RowId) :=
  (types.map TermType.name).map fun name => (name, none)

theorem registerTypes_cons_run (type : TermType) (types : List TermType) (storage : Storage) :
    (registerTypes (type :: types)).run storage =
      match storage.primary.typeCodes.insertNext type.name with
      | some codes => (registerTypes types).run (storage.withTypeCodes codes)
      | none => (.error .storageFull, storage) := by
  change (Action.transact _ >>= fun _ => registerTypes types).run storage = _
  cases hinsert : storage.primary.typeCodes.insertNext type.name with
  | none => rw [Action.run_bind, Action.run_transact_error (by rw [hinsert])]
  | some codes =>
    rw [Action.run_bind, Action.run_transact_ok (by rw [hinsert])]
    rfl

theorem registerTypes_run {types : List TermType} {storage : Storage} {codes : Table String}
    (h : storage.primary.typeCodes.insertAll (rowsOfTypes types) = some codes) :
    (registerTypes types).run storage = (.ok (), storage.withTypeCodes codes) := by
  induction types generalizing storage with
  | nil =>
    cases Option.some.inj h
    rfl
  | cons type types ih =>
    obtain ⟨between, hinsert, hrest⟩ := Table.insertAll_cons h
    have hinsert : storage.primary.typeCodes.insertNext type.name = some between := hinsert
    rw [registerTypes_cons_run, hinsert]
    exact ih hrest

theorem registerTypes_full {types : List TermType} {storage : Storage}
    (h : storage.primary.typeCodes.insertAll (rowsOfTypes types) = none) :
    ∃ after, (registerTypes types).run storage = (.error .storageFull, after) := by
  induction types generalizing storage with
  | nil => cases h
  | cons type types ih =>
    rw [registerTypes_cons_run]
    cases hinsert : storage.primary.typeCodes.insertNext type.name with
    | none => exact ⟨storage, rfl⟩
    | some between =>
      have hinsert : storage.primary.typeCodes.insert type.name none = some between := hinsert
      have hrest : (storage.withTypeCodes between).primary.typeCodes.insertAll
          (rowsOfTypes types) = none := by
        have hcons : (storage.primary.typeCodes.insert type.name none).bind
          (fun table => table.insertAll (rowsOfTypes types)) = none := h
        rw [hinsert] at hcons
        exact hcons
      exact ih hrest

namespace TypeCodes

/-- The last pair of a type counts. -/
theorem get?_ofPairs (pairs : List (TermType × RowId)) (type : TermType) :
    (ofPairs pairs).get? type = pairs.reverse.lookup type := by
  have start : empty.get? type = none := by cases type <;> rfl
  unfold ofPairs
  rw [← List.foldr_reverse]
  induction pairs.reverse with
  | nil => exact start
  | cons pair rest ih => rw [List.foldr_cons, get?_set, ih, lookup_cons_eq]

/-- Types and codes tell each other. -/
structure Bijective (codes : TypeCodes) : Prop where
  distinct : codes.Distinct
  typeOf : ∀ type code, codes.typeOf code = .ok type ↔ codes.codeOf type = .ok code
  unknown : ∀ code failure, codes.typeOf code = .error failure ↔
    (∀ type, codes.codeOf type ≠ .ok code) ∧ failure = .unknownTypeCode code

theorem codeOf_eq_ok_iff {codes : TypeCodes} {type : TermType} {code : RowId} :
    codes.codeOf type = .ok code ↔ codes.get? type = some code :=
  ⟨get?_of_codeOf, codeOf_eq⟩

theorem Distinct.bijective {codes : TypeCodes} (distinct : codes.Distinct) : codes.Bijective := by
  have typeOf : ∀ type code, codes.typeOf code = .ok type ↔ codes.codeOf type = .ok code := by
    intro type code
    rw [codeOf_eq_ok_iff]
    refine ⟨get?_of_typeOf, fun h => ?_⟩
    obtain ⟨found, hfound, hcode⟩ := find?_of_get? h
    cases distinct _ _ _ hcode h
    unfold TypeCodes.typeOf
    rw [hfound]
  refine ⟨distinct, typeOf, fun code failure => ⟨fun h => ?_, ?_⟩⟩
  · obtain ⟨rfl, uncoded⟩ := typeOf_error h
    exact ⟨fun type htype => uncoded type (codeOf_eq_ok_iff.mp htype), rfl⟩
  · rintro ⟨uncoded, rfl⟩
    cases hcode : codes.typeOf code with
    | ok type => exact absurd ((typeOf type code).mp hcode) (uncoded type)
    | error failure => rw [(typeOf_error hcode).1]

end TypeCodes

/-- The code of a type is the id of its name. -/
theorem Database.get?_knownCodes {db : Database} {type : TermType} {code : RowId} :
    db.knownCodes.get? type = some code ↔ (code, type.name) ∈ db.typeCodes.rows := by
  refine ⟨mem_of_get?_knownCodes, fun hrow => ?_⟩
  unfold knownCodes
  rw [TypeCodes.get?_ofPairs]
  refine lookup_of_mem (List.mem_reverse.mpr ?_) fun other hother => ?_
  · refine List.mem_filterMap.mpr ⟨_, hrow, ?_⟩
    rw [TermType.ofName?_name]
    rfl
  · obtain ⟨row, hrow', he⟩ := List.mem_filterMap.mp (List.mem_reverse.mp hother)
    obtain ⟨found, hfound, he⟩ := Option.map_eq_some_iff.mp he
    obtain ⟨rfl, rfl⟩ := Prod.mk.inj he
    have hname := TermType.name_of_ofName? hfound
    have hrow' : (row.1, found.name) ∈ db.typeCodes.rows := hname ▸ hrow'
    exact Table.id_unique hrow' hrow

/-- What loading the codes comes to: every type has its name's row, which is new just where there
was none, and its code is the id of that row. -/
structure Storage.Loads (storage : Storage) (codes : TypeCodes) (after : Storage) : Prop where
  others : after = storage.withTypeCodes after.primary.typeCodes
  gains : storage.primary.typeCodes.Gains after.primary.typeCodes
    ((TermType.all.map TermType.name).filter fun name => name ∉ storage.primary.typeCodes.records)
  stored : ∀ type code, codes.codeOf type = .ok code ↔
    (code, type.name) ∈ after.primary.typeCodes.rows
  coded : ∀ type, ∃ code, codes.codeOf type = .ok code
  bijective : codes.Bijective

theorem Table.insertAll_loads {storage : Storage} {codes : Table String}
    (h : storage.primary.typeCodes.insertAll (rowsOfTypes TermType.all) = some codes) :
    storage.Loads (storage.withTypeCodes codes).primary.knownCodes (storage.withTypeCodes codes) := by
  have stored : ∀ type code, (storage.withTypeCodes codes).primary.knownCodes.codeOf type =
      .ok code ↔ (code, type.name) ∈ codes.rows :=
    fun type code => TypeCodes.codeOf_eq_ok_iff.trans Database.get?_knownCodes
  refine ⟨rfl, .insertAll h (by decide), stored, fun type => ?_,
    (Database.knownCodes_distinct _).bijective⟩
  have listed : type.name ∈ TermType.all.map TermType.name :=
    List.mem_map.mpr ⟨type, by cases type <;> simp [TermType.all], rfl⟩
  have named := (insertAll_extends h).2 (type.name, none) (List.mem_map.mpr ⟨_, listed, rfl⟩)
  obtain ⟨code, hrow⟩ := mem_records.mp named
  exact ⟨code, (stored type code).mpr hrow⟩

theorem TypeCodes.eq_of_codeOf {codes other : TypeCodes}
    (same : ∀ type code, codes.codeOf type = .ok code ↔ other.codeOf type = .ok code) :
    codes = other := by
  have get : ∀ type, codes.get? type = other.get? type := by
    intro type
    refine Option.ext fun code => ?_
    rw [← codeOf_eq_ok_iff, ← codeOf_eq_ok_iff, same]
  have label := get .label
  have description := get .description
  have synonym := get .synonym
  cases codes
  cases other
  simp_all only [get?]

/-- Where all types have their rows, loading adds none and gives the codes that are there. -/
theorem Storage.Loads.again {storage after later last : Storage} {codes again : TypeCodes}
    (first : storage.Loads codes after) (second : later.Loads again last)
    (same : later.primary.typeCodes.rows = after.primary.typeCodes.rows) :
    again = codes ∧ last.primary.typeCodes.rows = after.primary.typeCodes.rows := by
  have none : ((TermType.all.map TermType.name).filter
      fun name => name ∉ later.primary.typeCodes.records) = [] := by
    refine List.filter_eq_nil_iff.mpr fun name hname => ?_
    obtain ⟨type, _, rfl⟩ := List.mem_map.mp hname
    obtain ⟨code, hcode⟩ := first.coded type
    have hrow := (first.stored type code).mp hcode
    rw [← same] at hrow
    simpa using Table.mem_records.mpr ⟨code, hrow⟩
  obtain ⟨added, hrows, hadded, _⟩ := second.gains.rows
  rw [none, List.map_eq_nil_iff] at hadded
  rw [hadded, List.append_nil, same] at hrows
  refine ⟨TypeCodes.eq_of_codeOf fun type code => ?_, hrows⟩
  rw [second.stored, first.stored, hrows]

theorem loadCodes_cases (storage : Storage) :
    (storage.primary.typeCodes.lastId.toInt + 3 ≤ Int64.maxValue.toInt ∧
      ∃ codes after, loadCodes.run storage = (.ok codes, after) ∧ storage.Loads codes after) ∨
    (¬storage.primary.typeCodes.lastId.toInt + 3 ≤ Int64.maxValue.toInt ∧
      ∃ after, loadCodes.run storage = (.error .storageFull, after)) := by
  have room := @Table.insertAll_isSome_iff _ _ storage.primary.typeCodes
    (TermType.all.map TermType.name)
  unfold loadCodes
  cases hinsert : storage.primary.typeCodes.insertAll (rowsOfTypes TermType.all) with
  | some codes =>
    refine Or.inl ⟨room.mp ⟨codes, hinsert⟩, _, _, ?_, Table.insertAll_loads hinsert⟩
    rw [Action.run_bind, registerTypes_run hinsert]
    rfl
  | none =>
    obtain ⟨after, hfull⟩ := registerTypes_full hinsert
    refine Or.inr ⟨fun fits => ?_, after, ?_⟩
    · obtain ⟨codes, hcodes⟩ := room.mpr fits
      exact Option.some_ne_none _ (hcodes.symm.trans hinsert)
    · rw [Action.run_bind, hfull]

/-- Loading the type codes succeeds just when there is an id left for each of the types, whatever
names have codes. It keeps the rows that are there and adds one for each type without a row; types
and codes then tell each other. Any store that is opened later has the same codes and adds no row.
Codes that are given as pairs tell their types likewise if the last pairs of different types have
different codes. -/
theorem loaded_codes_bijective (storage : Storage) :
    ∃ outcome after, loadCodes.run storage = (outcome, after) ∧
      ((∃ codes, outcome = .ok codes) ↔
        storage.primary.typeCodes.lastId.toInt + 3 ≤ Int64.maxValue.toInt) ∧
      (∀ failure, outcome = .error failure → failure = .storageFull) ∧
      (∀ codes, outcome = .ok codes → storage.Loads codes after ∧
        ∀ later source batch store last,
          later.primary.typeCodes.rows = after.primary.typeCodes.rows →
          (Store.connect source batch).run later = (.ok store, last) →
          store.codes = codes ∧
            last.primary.typeCodes.rows = after.primary.typeCodes.rows) ∧
      ∀ pairs : List (TermType × RowId),
        (∀ first second code, pairs.reverse.lookup first = some code →
          pairs.reverse.lookup second = some code → first = second) →
        (∀ type code, (TypeCodes.ofPairs pairs).codeOf type = .ok code ↔
          pairs.reverse.lookup type = some code) ∧ (TypeCodes.ofPairs pairs).Bijective := by
  have ofPairs : ∀ pairs : List (TermType × RowId),
      (∀ first second code, pairs.reverse.lookup first = some code →
        pairs.reverse.lookup second = some code → first = second) →
      (∀ type code, (TypeCodes.ofPairs pairs).codeOf type = .ok code ↔
        pairs.reverse.lookup type = some code) ∧ (TypeCodes.ofPairs pairs).Bijective := by
    intro pairs distinct
    simp only [← TypeCodes.get?_ofPairs] at distinct ⊢
    exact ⟨fun type code => TypeCodes.codeOf_eq_ok_iff, TypeCodes.Distinct.bijective distinct⟩
  rcases loadCodes_cases storage with ⟨fits, codes, after, run, loads⟩ | ⟨full, after, run⟩
  · refine ⟨_, after, run, iff_of_true ⟨codes, rfl⟩ fits, nofun, fun found h => ?_, ofPairs⟩
    cases Except.ok.inj h
    refine ⟨loads, fun later source batch store last same opened => ?_⟩
    obtain ⟨again, between, hload, hpack⟩ := Action.bind_ok opened
    obtain ⟨hstore, rfl⟩ := Prod.mk.inj hpack
    cases Except.ok.inj hstore
    rcases loadCodes_cases later with ⟨_, again', after', run', loads'⟩ | ⟨_, _, failed⟩
    · cases run'.symm.trans hload
      exact loads.again loads' same
    · cases failed.symm.trans hload
  · refine ⟨_, after, run, iff_of_false nofun full, fun failure h => ?_, nofun, ofPairs⟩
    exact (Except.error.inj h).symm

/-- A name that is no type's and a type's name under a code of its own. -/
def foreignStorage : Storage :=
  ⟨{ Database.empty with typeCodes := (Table.empty.insertAt 2 "sitelink").insertAt 7 "alias" },
    Database.empty⟩

/-- The code of the first pair passes to another type. -/
def shiftedPairs : List (TermType × RowId) := [(.label, 1), (.synonym, 1), (.label, 2)]

theorem loaded_codes_bijective_foreign :
    ∃ codes after store last, loadCodes.run foreignStorage = (.ok codes, after) ∧
      codes.codeOf .synonym = .ok 7 ∧ codes.typeOf 2 = .error (.unknownTypeCode 2) ∧
      (Store.connect .replica ⟨1, by decide⟩).run after = (.ok store, last) ∧
      store.codes = codes ∧
      (TypeCodes.ofPairs shiftedPairs).typeOf 1 = .ok .synonym := by
  obtain ⟨outcome, after, run, _, _, loaded, paired⟩ := loaded_codes_bijective foreignStorage
  have ended : (loadCodes.run foreignStorage).2 = after := congrArg Prod.snd run
  have rows : after.primary.typeCodes.rows =
      [(2, "sitelink"), (7, "alias"), (8, "label"), (9, "description")] := by
    rw [← ended]
    decide +kernel
  have reopened : ((Store.connect .replica ⟨1, by decide⟩).run after).1.isOk = true := by
    rw [← ended]
    decide +kernel
  have loadable : (loadCodes.run foreignStorage).1.isOk = true := by decide +kernel
  have distinct : ∀ first second code, shiftedPairs.reverse.lookup first = some code →
      shiftedPairs.reverse.lookup second = some code → first = second := by
    intro first second code hfirst hsecond
    have same := hfirst.trans hsecond.symm
    cases first <;> cases second <;> first | rfl | exact absurd same (by decide)
  rw [run] at loadable
  cases outcome with
  | error failure => cases loadable
  | ok codes =>
    obtain ⟨loads, later⟩ := loaded codes rfl
    obtain ⟨result, last, opened⟩ : ∃ result last,
      (Store.connect .replica ⟨1, by decide⟩).run after = (result, last) := ⟨_, _, rfl⟩
    rw [opened] at reopened
    cases result with
    | error failure => cases reopened
    | ok store =>
      refine ⟨codes, after, store, last, run, ?_, ?_, opened, (later _ _ _ _ _ rfl opened).1, ?_⟩
      · refine (loads.stored .synonym 7).mpr ?_
        rw [rows]
        decide
      · refine (loads.bijective.unknown 2 _).mpr ⟨fun type h => ?_, rfl⟩
        have hrow := (loads.stored type 2).mp h
        rw [rows] at hrow
        cases type <;> exact absurd hrow (by decide)
      · obtain ⟨given, bijective⟩ := paired shiftedPairs distinct
        exact (bijective.typeOf .synonym 1).mpr ((given .synonym 1).mpr rfl)

end Termbase
