import Termbase.Store

namespace Termbase

/-- What a term id stands for: a code of a type, a language and a text. -/
structure StoredTerm where
  code : RowId
  language : String
  text : String
  deriving DecidableEq, Repr

def Table.record? {ρ : Type} (table : Table ρ) (id : RowId) : Option ρ := table.rows.lookup id

namespace Database

def storedTerm? (db : Database) (id : RowId) : Option StoredTerm := do
  let term ← db.termInLang.record? id
  let textInLang ← db.textInLang.record? term.textInLangId
  let text ← db.text.record? textInLang.textId
  return ⟨term.typeCode, textInLang.language, text⟩

def storedTerms (db : Database) (batch : BatchSize) (ids : List RowId) :
    List (RowId × StoredTerm) :=
  batch.collect (fun chunk => chunk.filterMap fun id =>
    (db.storedTerm? id).map fun term => (id, term)) ids

/-- The term ids that each of some entities links to, in ascending order. Entities without links
are left out. -/
def linkedIdsOf (db : Database) (batch : BatchSize) (entities : List EntityId) :
    List (EntityId × List RowId) :=
  EntityKind.all.flatMap fun kind =>
    let numbers := (entities.filter fun entity => entity.kind = kind).map EntityId.number
    (batch.collect (db.links kind).idsOfEach (ascending numbers)).map fun entry =>
      (⟨kind, entry.1⟩, entry.2)

end Database

/-- Which terms are wanted. No type means all types, and no language all languages. -/
structure Selection where
  types : List TermType
  languages : List String
  deriving DecidableEq, Repr

namespace Selection

def wants (selection : Selection) (type : TermType) (language : String) : Bool :=
  (selection.types.isEmpty || type ∈ selection.types) &&
    (selection.languages.isEmpty || language ∈ selection.languages)

end Selection

/-- The wanted texts among the stored terms of some ids, in the order of the ids. -/
def textsOf (codes : TypeCodes) (selection : Selection) (stored : List (RowId × StoredTerm))
    (ids : List RowId) : Except Failure TermSet :=
  ids.foldlM (fun terms id =>
    match stored.lookup id with
    | none => return terms
    | some term => do
      let type ← codes.typeOf term.code
      if selection.wants type term.language then
        return terms.append type term.language term.text
      else return terms) TermMap.empty

/-- The wanted texts of each group of ids. Groups without any are left out. -/
def textsOfGroups {κ : Type} (codes : TypeCodes) (selection : Selection)
    (stored : List (RowId × StoredTerm)) (groups : List (κ × List RowId)) :
    Except Failure (List (κ × TermSet)) := do
  let resolved ← groups.mapM fun group => do
    return (group.1, ← textsOf codes selection stored group.2)
  return resolved.filter fun group => !group.2.isEmpty

namespace Store

def linkedIdsOf (store : Store) (entities : List EntityId) :
    Action Storage (List (EntityId × List RowId)) :=
  Action.query store.source fun db => db.linkedIdsOf store.batch entities

def resolveGroups {κ : Type} (store : Store) (groups : List (κ × List RowId))
    (selection : Selection) : Action Storage (List (κ × TermSet)) := do
  let ids := ascending (groups.flatMap Prod.snd)
  let stored ← Action.query store.source fun db => db.storedTerms store.batch ids
  Action.ofResult (textsOfGroups store.codes selection stored groups)

def resolve (store : Store) (ids : List RowId) (selection : Selection) :
    Action Storage TermSet := do
  let resolved ← store.resolveGroups [((), ids)] selection
  return ((resolved.lookup ()).getD TermMap.empty)

end Store

end Termbase
