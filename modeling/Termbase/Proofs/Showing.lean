import Mathlib.Data.List.ProdSigma
import Termbase.CommandLine
import Termbase.Proofs.Buffering
import Termbase.Proofs.Resolving

namespace Termbase

namespace TermSet

variable {types : List TermType} {languages : List String}
  {texts : TermType → String → List String}

/-- The term set with the given texts of each type and language. -/
def tabulate (types : List TermType) (languages : List String)
    (texts : TermType → String → List String) : TermSet :=
  types.foldl (fun terms type =>
    languages.foldl (fun terms language => terms.set type language (texts type language)) terms)
    TermMap.empty

theorem tabulate_eq : tabulate types languages texts =
    (types.product languages).foldl (fun terms place =>
      terms.set place.1 place.2 (texts place.1 place.2)) TermMap.empty := by
  unfold tabulate List.product
  simp only [List.foldl_flatMap, List.foldl_map]

theorem get?_foldl_set (places : List (TermType × String)) (start : TermSet) (type : TermType)
    (language : String) :
    (places.foldl (fun terms place => terms.set place.1 place.2 (texts place.1 place.2))
        start).get? type language =
      if (type, language) ∈ places then
        if texts type language = [] then none else some (texts type language)
      else start.get? type language := by
  induction places generalizing start with
  | nil => rfl
  | cons place places ih =>
    rw [List.foldl_cons, ih, TermMap.get?_set_eq]
    by_cases later : (type, language) ∈ places
    · rw [if_pos later, if_pos (List.mem_cons_of_mem _ later)]
    · rw [if_neg later]
      by_cases here : type = place.1 ∧ language = place.2
      · obtain ⟨rfl, rfl⟩ := here
        rw [if_pos ⟨rfl, rfl⟩, if_pos List.mem_cons_self]
      · have absent : (type, language) ∉ place :: places := by
          intro h
          rcases List.mem_cons.mp h with same | h
          · exact here ⟨congrArg Prod.fst same, congrArg Prod.snd same⟩
          · exact later h
        rw [if_neg here, if_neg absent]

theorem get?_tabulate (type : TermType) (language : String) :
    (tabulate types languages texts).get? type language =
      if type ∈ types ∧ language ∈ languages ∧ texts type language ≠ [] then
        some (texts type language) else none := by
  rw [tabulate_eq, get?_foldl_set, TermMap.get?_empty]
  have listed : (type, language) ∈ types.product languages ↔ type ∈ types ∧ language ∈ languages :=
    List.pair_mem_product
  by_cases asked : type ∈ types ∧ language ∈ languages
  · rw [if_pos (listed.mpr asked)]
    by_cases nothing : texts type language = []
    · rw [if_pos nothing, if_neg fun h => h.2.2 nothing]
    · rw [if_neg nothing, if_pos ⟨asked.1, asked.2, nothing⟩]
  · rw [if_neg (mt listed.mp asked), if_neg fun h => asked ⟨h.1, h.2.1⟩]

theorem tabulate_populated : (tabulate types languages texts).Populated := by
  rw [tabulate_eq]
  suffices general : ∀ (places : List (TermType × String)) (start : TermSet), start.Populated →
      (places.foldl (fun terms place => terms.set place.1 place.2 (texts place.1 place.2))
        start).Populated from general _ _ TermMap.populated_empty
  intro places
  induction places with
  | nil => exact fun _ populated => populated
  | cons place places ih => exact fun start populated => ih _ (populated.set _ _ _)

end TermSet

/-- What is shown of texts: all of the alternative names, and the first of the others. -/
def TermType.shown (type : TermType) (texts : List String) : List String :=
  match type with
  | .synonym => texts
  | _ => texts.take 1

theorem TermType.shown_eq_nil {type : TermType} {texts : List String} :
    type.shown texts = [] ↔ texts = [] := by
  cases type <;> cases texts <;> simp [TermType.shown]

/-- The terms are what is shown of the texts of the asked types and languages, and nothing else. -/
structure TermSet.Shows (types : List TermType) (languages : List String)
    (texts : TermType → String → List String) (terms : TermSet) : Prop where
  texts : ∀ type language, terms.get? type language =
    if type ∈ types ∧ language ∈ languages ∧ texts type language ≠ [] then
      some (type.shown (texts type language)) else none
  populated : terms.Populated

theorem TermSet.tabulate_shows (types : List TermType) (languages : List String)
    (texts : TermType → String → List String) :
    (tabulate types languages fun type language => type.shown (texts type language)).Shows types
      languages texts where
  texts type language := by
    rw [get?_tabulate]
    simp only [ne_eq, TermType.shown_eq_nil]
  populated := tabulate_populated

/-- The lookup has fetched the asked texts of the entities. -/
structure Lookup.Holds (texts : EntityId → TermType → String → List String)
    (types : List TermType) (languages : List String) (entities : List EntityId)
    (lookup : Lookup) : Prop where
  own : ∀ entity ∈ entities, entity.kind = lookup.kind
  fetched : ∀ entity ∈ entities, ∀ type ∈ types, ∀ language ∈ languages,
    (entity, type, language) ∈ lookup.fetched
  texts : ∀ entity ∈ entities, ∀ type ∈ types, ∀ language ∈ languages,
    textsIn lookup.buffer entity type language = texts entity type language

namespace Lookup.Holds

variable {texts : EntityId → TermType → String → List String} {types : List TermType}
  {languages : List String} {entities : List EntityId} {lookup : Lookup} {entity : EntityId}

theorem shownTexts (holds : lookup.Holds texts types languages entities)
    (listed : entity ∈ entities) {type : TermType} (typed : type ∈ types) {language : String}
    (spoken : language ∈ languages) :
    lookup.shownTexts entity type language = .ok (type.shown (texts entity type language)) := by
  have own := holds.own entity listed
  have fetched := holds.fetched entity listed type typed language spoken
  have same := holds.texts entity listed type typed language spoken
  have read := read_eq own type language
  rw [if_pos fetched, same] at read
  unfold Lookup.shownTexts
  cases type with
  | synonym =>
    dsimp only
    rw [readSynonyms_eq own, if_pos fetched, same]
    rfl
  | label =>
    dsimp only
    rw [read]
    cases texts entity .label language <;> rfl
  | description =>
    dsimp only
    rw [read]
    cases texts entity .description language <;> rfl

theorem shownTerms (holds : lookup.Holds texts types languages entities)
    (listed : entity ∈ entities) :
    lookup.shownTerms types languages entity = .ok ⟨entity, TermSet.tabulate types languages
      fun type language => type.shown (texts entity type language)⟩ := by
  unfold Lookup.shownTerms
  have row : ∀ terms, ∀ type ∈ types, languages.foldlM (fun (terms : TermSet) language => do
      return terms.set type language (← lookup.shownTexts entity type language)) terms =
      .ok (languages.foldl (fun terms language =>
        terms.set type language (type.shown (texts entity type language))) terms) := by
    intro terms type typed
    refine foldlM_ok (fun terms language spoken => ?_) terms
    rw [holds.shownTexts listed typed spoken]
    rfl
  rw [foldlM_ok row]
  rfl

theorem nil : lookup.Holds texts types languages [] :=
  ⟨fun _ h => absurd h List.not_mem_nil, fun _ h => absurd h List.not_mem_nil,
    fun _ h => absurd h List.not_mem_nil⟩

theorem subset {others : List EntityId} (holds : lookup.Holds texts types languages others)
    (listed : entities ⊆ others) : lookup.Holds texts types languages entities :=
  ⟨fun entity h => holds.own entity (listed h), fun entity h => holds.fetched entity (listed h),
    fun entity h => holds.texts entity (listed h)⟩

end Lookup.Holds

namespace Lookup

variable {types : List TermType} {languages : List String} {entities : List EntityId}

theorem forM_checkKind_ok {lookup : Lookup} (own : ∀ entity ∈ entities, entity.kind = lookup.kind) :
    entities.forM lookup.checkKind = .ok () := by
  rcases lookup.forM_checkKind entities with ⟨_, checked⟩ | ⟨entity, listed, foreign, _⟩
  · exact checked
  · exact absurd (own entity listed) foreign

/-- A new lookup has fetched nothing, so every entity lacks the first type in the first language. -/
theorem mem_wanted_ofKind {kind : EntityKind} {entity : EntityId} (typed : types ≠ [])
    (spoken : languages ≠ []) :
    entity ∈ (ofKind kind).wanted entities types languages ↔ entity ∈ entities := by
  obtain ⟨type, htype⟩ := List.exists_mem_of_ne_nil types typed
  obtain ⟨language, hlanguage⟩ := List.exists_mem_of_ne_nil languages spoken
  rw [mem_wanted]
  exact and_iff_left ⟨type, htype, language, hlanguage, List.not_mem_nil⟩

theorem fill_holds {lookup : Lookup} {resolved : List (EntityId × TermSet)}
    {texts : EntityId → TermType → String → List String}
    (own : ∀ entity ∈ entities, entity.kind = lookup.kind)
    (found : ∀ entity ∈ entities, ∀ type language,
      textsIn resolved entity type language = texts entity type language) :
    (lookup.fill resolved types languages entities).Holds texts types languages entities := by
  have fills := lookup.fill_fills resolved types languages entities
  refine ⟨fun entity listed => (own entity listed).trans fills.kind.symm,
    fun entity listed type typed language spoken => ?_,
    fun entity listed type typed language spoken => ?_⟩
  · exact (fills.fetched entity type language).mpr (Or.inl ⟨listed, typed, spoken⟩)
  · rw [fills.filled entity type language ⟨listed, typed, spoken⟩, found entity listed]

end Lookup

namespace Store

variable (store : Store) (storage : Storage) (selection : Selection)

/-- The ids that an entity links to. -/
def idsOf (entity : EntityId) : List RowId :=
  ((storage.database store.source).links entity.kind).idsOf entity.number

/-- No id that the entities link to has a complete row whose code is unknown. -/
def CanRead (entities : List EntityId) : Prop :=
  ∀ entity ∈ entities,
    (storage.database store.source).Readable store.codes (store.idsOf storage entity)

/-- The texts that an entity has for a type and language. -/
def textsFor (entity : EntityId) (type : TermType) (language : String) : List String :=
  (((storage.database store.source).wantedTexts store.codes selection
    (store.idsOf storage entity)).get? type language).getD []

theorem termsOf_cases (entities : List EntityId) :
    (store.CanRead storage entities ∧
      ∃ resolved, (store.termSource.termsOf entities selection).run storage =
          (.ok resolved, storage) ∧
        ∀ entity ∈ entities, ∀ type language, textsIn resolved entity type language =
          store.textsFor storage selection entity type language) ∨
      ¬store.CanRead storage entities ∧
        ∃ failure, (store.termSource.termsOf entities selection).run storage =
          (.error failure, storage) := by
  have run : (store.termSource.termsOf entities selection).run storage =
      (store.resolveGroups ((storage.database store.source).linkedIdsOf store.batch entities)
        selection).run storage := rfl
  rw [run]
  rcases store.resolveGroups_cases storage
    ((storage.database store.source).linkedIdsOf store.batch entities) selection with
    readable | ⟨group, hgroup, id, hid, code, unreadable, failed⟩
  · refine Or.inl ⟨fun entity listed => ?_, _, resolveGroups_readable readable selection,
      fun entity listed type language => ?_⟩
    · by_cases nothing : store.idsOf storage entity = []
      · rw [nothing]
        exact fun id hid => absurd hid List.not_mem_nil
      · exact readable (entity, store.idsOf storage entity)
          (Database.mem_linkedIdsOf.mpr ⟨listed, nothing, rfl⟩)
    · unfold textsIn textsFor
      rw [Database.lookup_resolved listed rfl]
      split
      next hempty =>
        have none := Database.wantedTexts_eq_empty hempty
        unfold idsOf
        rw [none, TermMap.get?_empty]
        rfl
      next => rfl
  · -- Entities without links have no group, but the failing id is in a group of one that has some.
    refine Or.inr ⟨fun readable => ?_, _, failed⟩
    obtain ⟨listed, _, ids⟩ := Database.mem_linkedIdsOf.mp hgroup
    have linked : id ∈ store.idsOf storage group.1 := by
      unfold idsOf
      rw [ids]
      exact hid
    exact (readable group.1 listed).not_unreadable linked code unreadable

variable {store storage}

/-- A new lookup holds all that it is asked for, unless something cannot be read. -/
theorem prefetch_cases {kind : EntityKind} {entities : List EntityId} {types : List TermType}
    {languages : List String} (own : ∀ entity ∈ entities, entity.kind = kind)
    (typed : types ≠ []) (spoken : languages ≠ []) :
    (store.CanRead storage entities ∧
      ∃ lookup, ((Lookup.ofKind kind).prefetch store.termSource entities types languages).run
          storage = (.ok lookup, storage) ∧
        lookup.Holds (store.textsFor storage ⟨types, languages⟩) types languages entities) ∨
      ¬store.CanRead storage entities ∧
        ∃ failure, ((Lookup.ofKind kind).prefetch store.termSource entities types languages).run
          storage = (.error failure, storage) := by
  have checked : entities.forM (Lookup.ofKind kind).checkKind = .ok () :=
    Lookup.forM_checkKind_ok own
  have wanted : ∀ entity, entity ∈ (Lookup.ofKind kind).wanted entities types languages ↔
      entity ∈ entities := fun _ => Lookup.mem_wanted_ofKind typed spoken
  have listed : entities ⊆ (Lookup.ofKind kind).wanted entities types languages :=
    fun entity => (wanted entity).mpr
  by_cases nothing : (Lookup.ofKind kind).wanted entities types languages = []
  · rw [nothing] at listed
    rw [Lookup.prefetch_idle store.termSource checked nothing]
    exact Or.inl ⟨fun entity h => absurd (listed h) List.not_mem_nil, _, rfl, .subset .nil listed⟩
  · rw [Lookup.prefetch_asking store.termSource checked nothing, Action.run_bind,
      Lookup.run_wrapped]
    rcases store.termsOf_cases storage ⟨types, languages⟩
      ((Lookup.ofKind kind).wanted entities types languages) with
      ⟨readable, resolved, run, texts⟩ | ⟨unreadable, failure, run⟩
    · rw [run]
      have kinds : ∀ entity ∈ (Lookup.ofKind kind).wanted entities types languages,
          entity.kind = kind := fun entity h => own entity ((wanted entity).mp h)
      exact Or.inl ⟨fun entity h => readable entity (listed h), _, rfl,
        .subset (Lookup.fill_holds kinds texts) listed⟩
    · rw [run]
      exact Or.inr ⟨fun readable => unreadable fun entity h =>
        readable entity ((wanted entity).mp h), _, rfl⟩

theorem canRead_iff_kinds {entities : List EntityId} :
    store.CanRead storage entities ↔
      store.CanRead storage (entities.filter fun entity => entity.kind = .item) ∧
        store.CanRead storage (entities.filter fun entity => entity.kind = .property) := by
  unfold CanRead
  simp only [List.mem_filter, decide_eq_true_eq]
  constructor
  · exact fun readable => ⟨fun entity h => readable entity h.1, fun entity h => readable entity h.1⟩
  · rintro ⟨items, properties⟩ entity listed
    cases kind : entity.kind with
    | item => exact items entity ⟨listed, kind⟩
    | property => exact properties entity ⟨listed, kind⟩

theorem showTerms_cases {entities : List EntityId} {types : List TermType}
    {languages : List String} (typed : types ≠ []) (spoken : languages ≠ []) :
    (store.CanRead storage entities ∧
      (showTerms store.termSource entities types languages).run storage =
        (.ok (entities.map fun entity => ⟨entity, TermSet.tabulate types languages
          fun type language => type.shown
            (store.textsFor storage ⟨types, languages⟩ entity type language)⟩), storage)) ∨
      ¬store.CanRead storage entities ∧
        ∃ failure, (showTerms store.termSource entities types languages).run storage =
          (.error failure, storage) := by
  have ofKind : ∀ kind : EntityKind, ∀ entity ∈ entities.filter (fun entity => entity.kind = kind),
      entity.kind = kind := fun kind entity h => of_decide_eq_true (List.mem_filter.mp h).2
  rw [canRead_iff_kinds]
  unfold showTerms
  rw [Action.run_bind]
  rcases prefetch_cases (ofKind .item) typed spoken with
    ⟨readItems, items, run, holdsItems⟩ | ⟨unreadable, failure, run⟩
  · rw [run]
    dsimp only
    rw [Action.run_bind]
    rcases prefetch_cases (ofKind .property) typed spoken with
      ⟨readProperties, properties, run, holdsProperties⟩ | ⟨unreadable, failure, run⟩
    · rw [run]
      refine Or.inl ⟨⟨readItems, readProperties⟩, ?_⟩
      dsimp only
      rw [Action.run_ofResult, mapM_ok fun entity listed => ?_]
      cases kind : entity.kind with
      | item =>
        exact holdsItems.shownTerms (List.mem_filter.mpr ⟨listed, decide_eq_true kind⟩)
      | property =>
        exact holdsProperties.shownTerms (List.mem_filter.mpr ⟨listed, decide_eq_true kind⟩)
    · rw [run]
      exact Or.inr ⟨fun both => unreadable both.2, _, rfl⟩
  · rw [run]
    exact Or.inr ⟨fun both => unreadable both.1, _, rfl⟩

/-- The terms of entities, with nothing kept for later. -/
def resolveEntities (store : Store) (entities : List EntityId) (selection : Selection) :
    Action Storage (List (EntityId × TermSet)) := do
  store.resolveGroups (← store.linkedIdsOf entities) selection

theorem CanRead.resolved {entities asked : List EntityId}
    (readable : store.CanRead storage entities) (listed : asked ⊆ entities) (selection : Selection) :
    ∃ resolved, (store.resolveEntities asked selection).run storage = (.ok resolved, storage) ∧
      ∀ entity ∈ asked, ∀ type language, textsIn resolved entity type language =
        store.textsFor storage selection entity type language := by
  have readableAsked : store.CanRead storage asked := fun entity h => readable entity (listed h)
  rcases store.termsOf_cases storage selection asked with ⟨_, resolved⟩ | ⟨unreadable, _⟩
  · exact resolved
  · exact absurd readableAsked unreadable

end Store

/-- The types that a command asks for, which are all of them if it names none. -/
def TermType.requested (types : List TermType) : List TermType :=
  if types.isEmpty then TermType.all else types

theorem TermType.requested_ne_nil (types : List TermType) : TermType.requested types ≠ [] := by
  unfold requested
  cases types with
  | nil => exact List.cons_ne_nil _ _
  | cons type types => exact List.cons_ne_nil _ _

/-- Showing entities changes nothing, and fails just when resolving all of them directly does.
Otherwise it shows each of them where it is listed, once more each time it is listed again, with the
texts that it has when it is resolved directly, alone or among any of the others. -/
theorem show_agrees (store : Store) (storage : Storage) (terms : TermSet)
    (entities : List EntityId) (types : List TermType) {languages : List String}
    (spoken : languages ≠ []) :
    ∃ outcome, (CommandLine.perform store terms (.print entities types languages)).run storage =
        (outcome, storage) ∧
      ((∃ failure, outcome = .error failure) ↔ ∃ failure,
        (store.resolveEntities entities ⟨TermType.requested types, languages⟩).run storage =
          (.error failure, storage)) ∧
      ∀ value, outcome = .ok value → ∃ shown : List Shown,
        value = .sequence (shown.map CommandLine.shownValue) ∧
        shown.map Shown.entity = entities ∧
        ∀ entry ∈ shown, ∀ asked, entry.entity ∈ asked → asked ⊆ entities → ∃ resolved,
          (store.resolveEntities asked ⟨TermType.requested types, languages⟩).run storage =
            (.ok resolved, storage) ∧
          entry.terms.Shows (TermType.requested types) languages
            (textsIn resolved entry.entity) := by
  have run : (CommandLine.perform store terms (.print entities types languages)).run storage =
      (do
        let shown ← showTerms store.termSource entities (TermType.requested types) languages
        return Json.Value.sequence (shown.map CommandLine.shownValue)).run storage := rfl
  rw [run, Action.run_bind]
  rcases Store.showTerms_cases (TermType.requested_ne_nil types) spoken with
    ⟨readable, shown⟩ | ⟨unreadable, failure, failed⟩
  · rw [shown]
    refine ⟨_, rfl, ?_, fun value same => ⟨_, (Except.ok.inj same).symm, ?_, ?_⟩⟩
    · refine iff_of_false nofun ?_
      rintro ⟨failure, failed⟩
      obtain ⟨resolved, succeeded, _⟩ := readable.resolved (List.Subset.refl entities)
        ⟨TermType.requested types, languages⟩
      rw [succeeded] at failed
      cases failed
    · rw [List.map_map]
      exact List.map_id entities
    · intro entry hentry asked own listed
      obtain ⟨entity, _, rfl⟩ := List.mem_map.mp hentry
      obtain ⟨resolved, succeeded, texts⟩ := readable.resolved listed
        ⟨TermType.requested types, languages⟩
      have same : textsIn resolved entity =
          store.textsFor storage ⟨TermType.requested types, languages⟩ entity :=
        funext fun type => funext fun language => texts entity own type language
      refine ⟨resolved, succeeded, ?_⟩
      rw [same]
      exact TermSet.tabulate_shows _ _ _
  · rw [failed]
    rcases store.termsOf_cases storage ⟨TermType.requested types, languages⟩ entities with
      ⟨readable, _⟩ | ⟨_, cause, refused⟩
    · exact absurd readable unreadable
    · exact ⟨_, rfl, iff_of_true ⟨_, rfl⟩ ⟨cause, refused⟩, nofun⟩

/-- An item and a property of one number, which have terms of their own. -/
def pairedStorage : Storage where
  primary := Database.empty
  replica :=
    { Database.empty with
      text := ((Table.empty.insertAt 1 "cat").insertAt 2 "puss").insertAt 3 "color"
      textInLang := ((Table.empty.insertAt 1 ⟨1, "en"⟩).insertAt 2 ⟨2, "en"⟩).insertAt 3 ⟨3, "en"⟩
      termInLang := ((Table.empty.insertAt 1 ⟨1, 3⟩).insertAt 2 ⟨2, 3⟩).insertAt 3 ⟨3, 1⟩
      itemLinks := (Links.empty.add 1 1).add 1 2
      propertyLinks := Links.empty.add 1 3 }

def pairedEntities : List EntityId := [⟨.property, 1⟩, ⟨.item, 1⟩, ⟨.property, 1⟩]

/-- Each of the two has its own terms, whether it is listed once or twice. -/
theorem show_agrees_paired :
    ["en", "en"] ≠ ([] : List String) ∧ ∃ shown : List Shown,
      (CommandLine.perform laggingStore TermMap.empty
          (.print pairedEntities [] ["en", "en"])).run pairedStorage =
        (.ok (.sequence (shown.map CommandLine.shownValue)), pairedStorage) ∧
      shown.map Shown.entity = pairedEntities ∧
      ∀ entry ∈ shown,
        entry.terms.get? .label "en" =
          (if entry.entity = ⟨.property, 1⟩ then some ["color"] else none) ∧
        entry.terms.get? .synonym "en" =
          if entry.entity = ⟨.property, 1⟩ then none else some ["cat", "puss"] := by
  have spoken : ["en", "en"] ≠ ([] : List String) := List.cons_ne_nil _ _
  obtain ⟨outcome, run, failing, succeeding⟩ :=
    show_agrees laggingStore pairedStorage TermMap.empty pairedEntities [] spoken
  have direct : ((laggingStore.resolveEntities pairedEntities
      ⟨TermType.requested [], ["en", "en"]⟩).run pairedStorage).1 =
    .ok [(⟨.item, 1⟩, TermMap.empty.put .synonym "en" ["cat", "puss"]),
      (⟨.property, 1⟩, TermMap.empty.put .label "en" ["color"])] := by decide +kernel
  cases outcome with
  | error failure =>
    obtain ⟨cause, refused⟩ := failing.mp ⟨failure, rfl⟩
    rw [refused] at direct
    cases direct
  | ok value =>
    obtain ⟨shown, rfl, entities, agree⟩ := succeeding value rfl
    refine ⟨spoken, shown, run, entities, fun entry hentry => ?_⟩
    have listed : entry.entity ∈ pairedEntities := entities ▸ List.mem_map_of_mem hentry
    obtain ⟨resolved, succeeded, shows⟩ :=
      agree entry hentry pairedEntities listed (List.Subset.refl _)
    rw [succeeded] at direct
    cases direct
    rw [shows.texts, shows.texts]
    simp only [pairedEntities, List.mem_cons, List.not_mem_nil, or_false] at listed
    rcases listed with property | item | property
    · rw [property]
      decide +kernel
    · rw [item]
      decide +kernel
    · rw [property]
      decide +kernel

end Termbase
