import Termbase.Proofs.Batching
import Termbase.Proofs.Coding
import Termbase.Proofs.Events

namespace Termbase

/-- The code of every term is the code of a type. -/
def Database.Coded (db : Database) (codes : TypeCodes) : Prop :=
  ∀ row ∈ db.termInLang.rows, ∃ type, codes.get? type = some row.2.typeCode

section Coded

variable {codes : TypeCodes} {batch : BatchSize} {source : Source} {terms : TermSet}

def Storage.KeepsCoded (codes : TypeCodes) (storage after : Storage) : Prop :=
  storage.primary.Coded codes → after.primary.Coded codes

theorem Storage.KeepsCoded.refl (storage : Storage) : storage.KeepsCoded codes storage := id

theorem Storage.KeepsCoded.trans (a b c : Storage) (hab : a.KeepsCoded codes b)
    (hbc : b.KeepsCoded codes c) : a.KeepsCoded codes c :=
  hbc ∘ hab

end Coded

/-- The texts of those of some facts that are of a type and language, in their order. -/
def Fact.textsAt (type : TermType) (language : String) (facts : List Fact) : List String :=
  (facts.filter fun fact => fact.type = type ∧ fact.language = language).map Fact.text

theorem Fact.mem_textsAt_self {fact : Fact} {facts : List Fact} (h : fact ∈ facts) :
    fact.text ∈ Fact.textsAt fact.type fact.language facts :=
  List.mem_map.mpr ⟨fact, List.mem_filter.mpr ⟨h, decide_eq_true ⟨rfl, rfl⟩⟩, rfl⟩

namespace TermSet

def withFact (terms : TermSet) (fact : Fact) : TermSet :=
  terms.append fact.type fact.language fact.text

/-- The term set of some facts. -/
def ofFacts (facts : List Fact) : TermSet := facts.foldl withFact TermMap.empty

theorem get?_foldl_withFact (facts : List Fact) (start : TermSet) (type : TermType)
    (language : String) :
    (facts.foldl withFact start).get? type language =
      match Fact.textsAt type language facts with
      | [] => start.get? type language
      | text :: texts => some ((start.get? type language).getD [] ++ text :: texts) := by
  induction facts generalizing start with
  | nil => rfl
  | cons fact facts ih =>
    rw [List.foldl_cons, ih]
    unfold withFact TermMap.append
    rw [TermMap.get?_put]
    by_cases here : type = fact.type ∧ language = fact.language
    · obtain ⟨rfl, rfl⟩ := here
      have hcons : Fact.textsAt fact.type fact.language (fact :: facts) =
          fact.text :: Fact.textsAt fact.type fact.language facts := by
        simp [Fact.textsAt]
      rw [hcons]
      cases Fact.textsAt fact.type fact.language facts <;> simp
    · have hcons : Fact.textsAt type language (fact :: facts) =
          Fact.textsAt type language facts := by
        have elsewhere : ¬(fact.type = type ∧ fact.language = language) :=
          fun h => here ⟨h.1.symm, h.2.symm⟩
        unfold Fact.textsAt
        rw [List.filter_cons_of_neg (by simpa using elsewhere)]
      rw [hcons]
      simp only [if_neg here]

theorem get?_ofFacts (facts : List Fact) (type : TermType) (language : String) :
    (ofFacts facts).get? type language =
      match Fact.textsAt type language facts with
      | [] => none
      | text :: texts => some (text :: texts) := by
  unfold ofFacts
  rw [get?_foldl_withFact, TermMap.get?_empty]
  rfl

theorem isEmpty_ofFacts {facts : List Fact} : (ofFacts facts).isEmpty = true ↔ facts = [] := by
  constructor
  · intro hempty
    refine List.eq_nil_iff_forall_not_mem.mpr fun fact hfact => ?_
    have listed := Fact.mem_textsAt_self hfact
    have hget := get?_ofFacts facts fact.type fact.language
    cases htexts : Fact.textsAt fact.type fact.language facts with
    | nil => simp [htexts] at listed
    | cons text texts =>
      rw [htexts] at hget
      exact absurd (TermMap.isEmpty_iff.mp hempty _ _ _ hget) (List.cons_ne_nil _ _)
  · rintro rfl
    rfl

end TermSet

namespace Database

variable {db : Database} {batch : BatchSize}

theorem mem_linkedIdsOf {entities : List EntityId} {entity : EntityId} {ids : List RowId} :
    (entity, ids) ∈ db.linkedIdsOf batch entities ↔
      entity ∈ entities ∧ ids ≠ [] ∧ (db.links entity.kind).idsOf entity.number = ids := by
  unfold linkedIdsOf
  simp only [Links.collect_idsOfEach]
  unfold Links.idsOfEach
  constructor
  · intro h
    obtain ⟨kind, _, h⟩ := List.mem_flatMap.mp h
    obtain ⟨entry, hentry, he⟩ := List.mem_map.mp h
    obtain ⟨hentry, some_ids⟩ := List.mem_filter.mp hentry
    obtain ⟨number, hnumber, rfl⟩ := List.mem_map.mp hentry
    obtain ⟨other, hother, rfl⟩ := List.mem_map.mp (mem_ascending.mp hnumber)
    obtain ⟨listed, hkind⟩ := List.mem_filter.mp hother
    cases of_decide_eq_true hkind
    obtain ⟨rfl, rfl⟩ := Prod.mk.inj he
    exact ⟨listed, of_decide_eq_true some_ids, rfl⟩
  · rintro ⟨listed, some_ids, rfl⟩
    refine List.mem_flatMap.mpr ⟨entity.kind, by cases entity.kind <;> simp [EntityKind.all], ?_⟩
    refine List.mem_map.mpr ⟨(entity.number, _), List.mem_filter.mpr ⟨?_, decide_eq_true some_ids⟩,
      rfl⟩
    have hnumber : entity.number ∈
        (entities.filter fun other => other.kind = entity.kind).map EntityId.number :=
      List.mem_map.mpr ⟨entity, List.mem_filter.mpr ⟨listed, decide_eq_true rfl⟩, rfl⟩
    exact List.mem_map.mpr ⟨entity.number, mem_ascending.mpr hnumber, rfl⟩

/-- What an id decodes to, if it is there and its code is that of a type. -/
def fact? (db : Database) (codes : TypeCodes) (id : RowId) : Option Fact := do
  let term ← db.storedTerm? id
  let type ← TermType.all.find? fun type => codes.get? type = some term.code
  return ⟨type, term.language, term.text⟩

theorem lookup_storedTerms {ids : List RowId} {id : RowId} (hid : id ∈ ids) :
    (db.storedTerms batch ids).lookup id = db.storedTerm? id := by
  rw [storedTerms_eq]
  have read : ∀ term, (id, term) ∈ (ids.filterMap fun id =>
      (db.storedTerm? id).map fun term => (id, term)) ↔ db.storedTerm? id = some term := by
    intro term
    rw [List.mem_filterMap]
    constructor
    · rintro ⟨other, _, h⟩
      obtain ⟨found, hfound, he⟩ := Option.map_eq_some_iff.mp h
      obtain ⟨rfl, rfl⟩ := Prod.mk.inj he
      exact hfound
    · exact fun h => ⟨id, hid, Option.map_eq_some_iff.mpr ⟨term, h, rfl⟩⟩
  cases hterm : db.storedTerm? id with
  | none =>
    refine Option.eq_none_iff_forall_ne_some.mpr fun term h => ?_
    have found := (read term).mp (mem_of_lookup h)
    simp [hterm] at found
  | some term =>
    refine lookup_of_mem ((read term).mpr hterm) fun other hother => ?_
    exact Option.some.inj (((read other).mp hother).symm.trans hterm)

/-- Each of the ids that decodes does so to the code of a type. -/
def Readable (db : Database) (codes : TypeCodes) (ids : List RowId) : Prop :=
  ∀ id ∈ ids, ∀ term, db.storedTerm? id = some term → ∃ type, codes.get? type = some term.code

/-- A term that decodes has a row with its code. -/
theorem Coded.readable {codes : TypeCodes} (coded : db.Coded codes) (ids : List RowId) :
    db.Readable codes ids := by
  intro id _ term h
  unfold storedTerm? at h
  obtain ⟨record, hrecord, h⟩ := Option.bind_eq_some_iff.mp h
  obtain ⟨below, _, h⟩ := Option.bind_eq_some_iff.mp h
  obtain ⟨text, _, h⟩ := Option.bind_eq_some_iff.mp h
  cases Option.some.inj h
  exact coded _ (Table.record?_eq_some_iff.mp hrecord)

theorem typeOf_of_storedTerm? {codes : TypeCodes} {id : RowId} {term : StoredTerm}
    (h : db.storedTerm? id = some term) (coded : ∃ type, codes.get? type = some term.code) :
    ∃ type, codes.typeOf term.code = .ok type ∧
      db.fact? codes id = some ⟨type, term.language, term.text⟩ := by
  obtain ⟨type, htype⟩ := coded
  obtain ⟨found, hfound, _⟩ := TypeCodes.find?_of_get? htype
  unfold TypeCodes.typeOf fact?
  rw [h, hfound]
  exact ⟨found, rfl, by simp [hfound]⟩

/-- The wanted texts of some ids. -/
def wantedTexts (db : Database) (codes : TypeCodes) (selection : Selection) (ids : List RowId) :
    TermSet :=
  TermSet.ofFacts ((ids.filterMap (db.fact? codes)).filter fun fact =>
    selection.wants fact.type fact.language)

theorem textsOf_eq {codes : TypeCodes} {ids : List RowId} (readable : db.Readable codes ids)
    {selection : Selection} {stored : List (RowId × StoredTerm)}
    (read : ∀ id ∈ ids, stored.lookup id = db.storedTerm? id) :
    textsOf codes selection stored ids = .ok (db.wantedTexts codes selection ids) := by
  unfold wantedTexts TermSet.ofFacts
  rw [List.foldl_filter, List.foldl_filterMap]
  unfold textsOf
  refine foldlM_ok (fun terms id hid => ?_) TermMap.empty
  simp only [read id hid]
  cases hterm : db.storedTerm? id with
  | none =>
    have hnone : db.fact? codes id = none := by
      unfold fact?
      rw [hterm]
      rfl
    rw [hnone]
    rfl
  | some term =>
    obtain ⟨type, htype, hfact⟩ := typeOf_of_storedTerm? hterm (readable id hid term hterm)
    rw [hfact]
    simp only
    rw [htype]
    change (if selection.wants type term.language = true then _ else _) = _
    split
    next => rfl
    next => rfl

end Database

theorem Store.resolveGroups_readable {κ : Type} {store : Store} {storage : Storage}
    {groups : List (κ × List RowId)} (readable : ∀ group ∈ groups,
      (storage.database store.source).Readable store.codes group.2) (selection : Selection) :
    (store.resolveGroups groups selection).run storage =
      (.ok ((groups.map fun group => (group.1,
        (storage.database store.source).wantedTexts store.codes selection group.2)).filter
          fun group => !group.2.isEmpty), storage) := by
  unfold resolveGroups
  rw [Action.run_bind, Action.run_query]
  simp only [Action.run_ofResult]
  unfold textsOfGroups
  have each : ∀ group ∈ groups, (do
      return (group.1, ← textsOf store.codes selection
        ((storage.database store.source).storedTerms store.batch
          (ascending (groups.flatMap Prod.snd))) group.2) : Except Failure (κ × TermSet)) =
      .ok (group.1, (storage.database store.source).wantedTexts store.codes selection group.2) := by
    intro group hgroup
    rw [Database.textsOf_eq (readable group hgroup) fun id hid => Database.lookup_storedTerms
      (mem_ascending.mpr (List.mem_flatMap.mpr ⟨group, hgroup, hid⟩))]
    rfl
  rw [mapM_ok each]
  rfl

/-- Of an entity's ids, the wanted texts are read, if there are any. -/
theorem Database.lookup_resolved {db : Database} {batch : BatchSize} {codes : TypeCodes}
    {selection : Selection} {entities : List EntityId} {entity : EntityId}
    (listed : entity ∈ entities) {found : TermSet}
    (read : db.wantedTexts codes selection ((db.links entity.kind).idsOf entity.number) = found) :
    (((db.linkedIdsOf batch entities).map fun group =>
      (group.1, db.wantedTexts codes selection group.2)).filter fun group =>
        !group.2.isEmpty).lookup entity = if found.isEmpty then none else some found := by
  have resolved : ∀ terms, (entity, terms) ∈ ((db.linkedIdsOf batch entities).map fun group =>
      (group.1, db.wantedTexts codes selection group.2)).filter (fun group => !group.2.isEmpty) ↔
        ¬terms.isEmpty = true ∧ terms = found := by
    intro terms
    rw [List.mem_filter, List.mem_map, Bool.not_eq_true']
    constructor
    · rintro ⟨⟨⟨other, ids⟩, hgroup, he⟩, some_texts⟩
      obtain ⟨rfl, rfl⟩ := Prod.mk.inj he
      obtain ⟨_, _, rfl⟩ := Database.mem_linkedIdsOf.mp hgroup
      exact ⟨by simpa using some_texts, read⟩
    · rintro ⟨some_texts, rfl⟩
      have some_ids : (db.links entity.kind).idsOf entity.number ≠ [] := by
        intro hnone
        rw [hnone] at read
        exact some_texts (read ▸ rfl)
      exact ⟨⟨(entity, _), Database.mem_linkedIdsOf.mpr ⟨listed, some_ids, rfl⟩, by rw [read]⟩,
        by simpa using some_texts⟩
  split
  next hempty =>
    refine Option.eq_none_iff_forall_ne_some.mpr fun terms h => ?_
    obtain ⟨some_texts, rfl⟩ := (resolved terms).mp (mem_of_lookup h)
    exact some_texts hempty
  next some_texts =>
    refine lookup_of_mem ((resolved found).mpr ⟨some_texts, rfl⟩) fun other hother => ?_
    exact ((resolved other).mp hother).2

end Termbase
