import Termbase.Store.Resolve

namespace Termbase

inductive Reading where
  /-- The type and language of the entity have never been fetched. -/
  | notPrefetched
  /-- They have been fetched, and there is no text. -/
  | absent
  | found (text : String)
  deriving DecidableEq, Repr

/-- Where a lookup gets its texts: the ids that entities link to, and the texts of the ids. -/
structure TermSource (σ : Type) where
  linkedIdsOf : List EntityId → Action σ (List (EntityId × List RowId))
  resolveGroups : List (EntityId × List RowId) → Selection → Action σ (List (EntityId × TermSet))

def Store.termSource {σ : Type} [HasStorage σ] (store : Store) : TermSource σ :=
  ⟨fun entities => Action.onStorage (store.linkedIdsOf entities),
    fun groups selection => Action.onStorage (store.resolveGroups groups selection)⟩

/-- Texts of entities of one kind that have been fetched for later reading. -/
structure Lookup where
  kind : EntityKind
  buffer : List (EntityId × TermSet)
  fetched : List (EntityId × TermType × String)

namespace Lookup

def ofKind (kind : EntityKind) : Lookup := ⟨kind, [], []⟩

def checkKind (lookup : Lookup) (entity : EntityId) : Except Failure Unit :=
  if entity.kind = lookup.kind then .ok ()
  else .error (.unsupportedEntityKind lookup.kind entity.kind)

def lacks (lookup : Lookup) (types : List TermType) (languages : List String)
    (entity : EntityId) : Bool :=
  types.any fun type => languages.any fun language => (entity, type, language) ∉ lookup.fetched

def texts (lookup : Lookup) (entity : EntityId) (type : TermType) (language : String) :
    List String :=
  ((lookup.buffer.lookup entity).bind fun terms => terms.get? type language).getD []

def noteFetched (entry : EntityId × TermType × String)
    (entries : List (EntityId × TermType × String)) : List (EntityId × TermType × String) :=
  if entry ∈ entries then entries else entry :: entries

def keep (lookup : Lookup) (entity : EntityId) (type : TermType) (language : String)
    (texts : List String) : Lookup :=
  let terms := (lookup.buffer.lookup entity).getD TermMap.empty
  { lookup with
    buffer := assign entity (terms.set type language texts) lookup.buffer
    fetched := noteFetched (entity, type, language) lookup.fetched }

def keepAll (lookup : Lookup) (resolved : List (EntityId × TermSet)) (types : List TermType)
    (languages : List String) (entity : EntityId) : Lookup :=
  let terms := (resolved.lookup entity).getD TermMap.empty
  types.foldl (fun lookup type =>
    languages.foldl (fun lookup language =>
      lookup.keep entity type language ((terms.get? type language).getD [])) lookup) lookup

def wrapped {σ α : Type} (action : Action σ α) : Action σ α :=
  action.rescue fun failure => some (Action.fail (.store failure))

def prefetch {σ : Type} (source : TermSource σ) (lookup : Lookup) (entities : List EntityId)
    (types : List TermType) (languages : List String) : Action σ Lookup := do
  let _ ← Action.ofResult (entities.forM lookup.checkKind)
  let wanted := ascending (entities.filter (lookup.lacks types languages))
  if wanted.isEmpty then return lookup
  else do
    let groups ← wrapped (source.linkedIdsOf wanted)
    let resolved ← wrapped (source.resolveGroups groups ⟨types, languages⟩)
    return wanted.foldl (fun lookup entity => lookup.keepAll resolved types languages entity)
      lookup

/-- Reads a text, the first one if there are several. -/
def read (lookup : Lookup) (entity : EntityId) (type : TermType) (language : String) :
    Except Failure Reading := do
  lookup.checkKind entity
  if (entity, type, language) ∉ lookup.fetched then return .notPrefetched
  else
    match lookup.texts entity type language with
    | [] => return .absent
    | text :: _ => return .found text

def readSynonyms (lookup : Lookup) (entity : EntityId) (language : String) :
    Except Failure (Option (List String)) := do
  lookup.checkKind entity
  if (entity, TermType.synonym, language) ∉ lookup.fetched then return none
  else return some (lookup.texts entity .synonym language)

/-- Reads a text, which is fetched first if need be. -/
def fetch {σ : Type} (source : TermSource σ) (lookup : Lookup) (entity : EntityId)
    (type : TermType) (language : String) : Action σ (Lookup × Option String) := do
  let lookup ← lookup.prefetch source [entity] [type] [language]
  match ← Action.ofResult (lookup.read entity type language) with
  | .found text => return (lookup, some text)
  | _ => return (lookup, none)

def fetchSynonyms {σ : Type} (source : TermSource σ) (lookup : Lookup) (entity : EntityId)
    (language : String) : Action σ (Lookup × List String) := do
  let lookup ← lookup.prefetch source [entity] [.synonym] [language]
  let synonyms ← Action.ofResult (lookup.readSynonyms entity language)
  return (lookup, synonyms.getD [])

end Lookup

end Termbase
