import Termbase.Lookup

namespace Termbase

structure Shown where
  entity : EntityId
  terms : TermSet
  deriving DecidableEq

/-- The fetched texts to print for a type and language: all alternative names, and one text of the
other types. -/
def Lookup.shownTexts (lookup : Lookup) (entity : EntityId) (type : TermType)
    (language : String) : Except Failure (List String) :=
  match type with
  | .synonym => do return (← lookup.readSynonyms entity language).getD []
  | _ => do
    match ← lookup.read entity type language with
    | .found text => return [text]
    | _ => return []

def Lookup.shownTerms (lookup : Lookup) (types : List TermType) (languages : List String)
    (entity : EntityId) : Except Failure Shown := do
  let terms ← types.foldlM (fun terms type =>
    languages.foldlM (fun (terms : TermSet) language => do
      return terms.set type language (← lookup.shownTexts entity type language)) terms)
    TermMap.empty
  return ⟨entity, terms⟩

/-- The terms of entities of both kinds, which a lookup for each kind fetches at once. -/
def showTerms {σ : Type} (source : TermSource σ) (entities : List EntityId)
    (types : List TermType) (languages : List String) : Action σ (List Shown) := do
  let ofKind (kind : EntityKind) := entities.filter fun entity => entity.kind = kind
  let items ← (Lookup.ofKind .item).prefetch source (ofKind .item) types languages
  let properties ← (Lookup.ofKind .property).prefetch source (ofKind .property) types languages
  let lookupOf : EntityKind → Lookup
    | .item => items
    | .property => properties
  Action.ofResult (entities.mapM fun entity =>
    (lookupOf entity.kind).shownTerms types languages entity)

end Termbase
