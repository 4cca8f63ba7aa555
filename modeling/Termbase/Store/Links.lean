import Termbase.Cleanup
import Termbase.Store

namespace Termbase

def linkedIds (entity : EntityId) : Action Storage (List RowId) :=
  Action.query .primary fun db => (db.links entity.kind).idsOf entity.number

def replaceLinks (entity : EntityId) (ids : List RowId) : Action Storage Unit :=
  Action.transact fun db =>
    .ok ((), db.withLinks entity.kind ((db.links entity.kind).replace entity.number ids))

def removeLinks (entity : EntityId) : Action Storage (List RowId) :=
  Action.transact fun db =>
    let links := db.links entity.kind
    .ok (links.idsOf entity.number, db.withLinks entity.kind (links.retain entity.number []))

namespace Store

/-- Makes a term set the terms of an entity and cleans up the ids that it links to no longer. The
links are written before the ids are checked, so that a cleanup that comes later spares them. -/
def storeTerms (store : Store) (entity : EntityId) (terms : TermSet) :
    Action Storage Acquired := do
  let previous ← linkedIds entity
  let acquired ← store.acquireWith terms (replaceLinks entity)
  if acquired.mismatch.isSome then replaceLinks entity acquired.ids.ids
  let removed := previous.filter fun id => id ∉ acquired.ids.ids
  let _ ← clean store.batch removed
  return acquired

def deleteTerms (store : Store) (entity : EntityId) : Action Storage CleanupReport := do
  let removed ← removeLinks entity
  clean store.batch removed

end Store

end Termbase
