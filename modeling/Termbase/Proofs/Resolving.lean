import Termbase.Proofs.Reading

namespace Termbase

namespace TermMap

variable {α : Type}

end TermMap

namespace Database

variable {db : Database} {codes : TypeCodes}

/-- The id has a row, which has a row below it, which has a text. -/
def HasTerm (db : Database) (id : RowId) (term : StoredTerm) : Prop :=
  ∃ row phrase, (id, row) ∈ db.termInLang.rows ∧ row.typeCode = term.code ∧
    (row.textInLangId, phrase) ∈ db.textInLang.rows ∧ phrase.language = term.language ∧
    (phrase.textId, term.text) ∈ db.text.rows

theorem storedTerm?_eq_some_iff {id : RowId} {term : StoredTerm} :
    db.storedTerm? id = some term ↔ db.HasTerm id term := by
  unfold storedTerm? HasTerm
  simp only [Option.bind_eq_bind, Option.bind_eq_some_iff, Table.record?_eq_some_iff]
  constructor
  · rintro ⟨row, hrow, phrase, hphrase, text, htext, h⟩
    cases Option.some.inj h
    exact ⟨row, phrase, hrow, rfl, hphrase, rfl, htext⟩
  · rintro ⟨row, phrase, hrow, hcode, hphrase, hlanguage, htext⟩
    refine ⟨row, hrow, phrase, hphrase, term.text, htext, ?_⟩
    rw [hcode, hlanguage]
    rfl

/-- The id has a complete row whose code is that of no type. -/
def Unreadable (db : Database) (codes : TypeCodes) (id code : RowId) : Prop :=
  ∃ term, db.HasTerm id term ∧ term.code = code ∧ ∀ type, codes.get? type ≠ some code

theorem Readable.not_unreadable {ids : List RowId} (readable : db.Readable codes ids) {id : RowId}
    (hid : id ∈ ids) (code : RowId) : ¬db.Unreadable codes id code := by
  rintro ⟨term, hterm, rfl, uncoded⟩
  obtain ⟨type, htype⟩ := readable id hid term (storedTerm?_eq_some_iff.mpr hterm)
  exact uncoded type htype

theorem wantedTexts_eq_empty {selection : Selection} {ids : List RowId}
    (h : (db.wantedTexts codes selection ids).isEmpty = true) :
    db.wantedTexts codes selection ids = TermMap.empty := by
  unfold wantedTexts at h ⊢
  rw [TermSet.isEmpty_ofFacts.mp h]
  rfl

/-- The step of an id fails just when the id is unreadable. -/
theorem textsOf_cases (selection : Selection) {stored : List (RowId × StoredTerm)}
    {ids : List RowId} (read : ∀ id ∈ ids, stored.lookup id = db.storedTerm? id) :
    db.Readable codes ids ∨ ∃ id ∈ ids, ∃ code, db.Unreadable codes id code ∧
      textsOf codes selection stored ids = .error (.unknownTypeCode code) := by
  cases hresult : textsOf codes selection stored ids with
  | ok terms =>
    refine Or.inl fun id hid term hterm => ?_
    obtain ⟨state, next, hstep⟩ := foldlM_ok_mem hresult id hid
    simp only [read id hid, hterm] at hstep
    cases htype : codes.typeOf term.code with
    | error failure =>
      rw [htype] at hstep
      cases hstep
    | ok type => exact ⟨type, TypeCodes.get?_of_typeOf htype⟩
  | error failure =>
    obtain ⟨id, hid, state, hstep⟩ := foldlM_error_mem hresult
    refine Or.inr ⟨id, hid, ?_⟩
    rw [read id hid] at hstep
    cases hterm : db.storedTerm? id with
    | none =>
      rw [hterm] at hstep
      cases hstep
    | some term =>
      simp only [hterm] at hstep
      cases htype : codes.typeOf term.code with
      | ok type =>
        rw [htype] at hstep
        change (if selection.wants type term.language = true then _ else _) = _ at hstep
        split at hstep <;> cases hstep
      | error cause =>
        rw [htype] at hstep
        cases hstep
        obtain ⟨rfl, uncoded⟩ := TypeCodes.typeOf_error htype
        exact ⟨term.code, ⟨term, storedTerm?_eq_some_iff.mp hterm, rfl, uncoded⟩, rfl⟩

end Database

namespace Store

variable {κ : Type} {store : Store} {storage : Storage}

/-- Either all is readable or the first id that is not makes the resolving fail. -/
theorem resolveGroups_cases (store : Store) (storage : Storage) (groups : List (κ × List RowId))
    (selection : Selection) :
    (∀ group ∈ groups, (storage.database store.source).Readable store.codes group.2) ∨
      ∃ group ∈ groups, ∃ id ∈ group.2, ∃ code,
        (storage.database store.source).Unreadable store.codes id code ∧
        (store.resolveGroups groups selection).run storage =
          (.error (.unknownTypeCode code), storage) := by
  have read : ∀ group ∈ groups, ∀ id ∈ group.2,
      ((storage.database store.source).storedTerms store.batch
        (ascending (groups.flatMap Prod.snd))).lookup id =
          (storage.database store.source).storedTerm? id := fun group hgroup id hid =>
    Database.lookup_storedTerms (mem_ascending.mpr (List.mem_flatMap.mpr ⟨group, hgroup, hid⟩))
  have run : (store.resolveGroups groups selection).run storage =
      (textsOfGroups store.codes selection ((storage.database store.source).storedTerms store.batch
        (ascending (groups.flatMap Prod.snd))) groups, storage) := rfl
  rw [run]
  unfold textsOfGroups
  cases hmap : groups.mapM fun group => do
      return (group.1, ← textsOf store.codes selection
        ((storage.database store.source).storedTerms store.batch
          (ascending (groups.flatMap Prod.snd))) group.2) with
  | ok resolved =>
    refine Or.inl fun group hgroup => ?_
    obtain ⟨entry, hentry⟩ := mapM_ok_mem hmap group hgroup
    refine (Database.textsOf_cases selection (read group hgroup)).resolve_right ?_
    rintro ⟨id, _, code, _, failed⟩
    rw [failed] at hentry
    cases hentry
  | error failure =>
    obtain ⟨group, hgroup, hfailed⟩ := mapM_error_mem hmap
    refine Or.inr ⟨group, hgroup, ?_⟩
    rcases Database.textsOf_cases selection (read group hgroup) with readable | unreadable
    · rw [Database.textsOf_eq readable (read group hgroup)] at hfailed
      cases hfailed
    · obtain ⟨id, hid, code, hcode, failed⟩ := unreadable
      rw [failed] at hfailed
      cases hfailed
      exact ⟨id, hid, code, hcode, rfl⟩

end Store

end Termbase
