import Termbase.Interning.Passes

namespace Termbase

/-- A way to use a storage: what it reads where a lagging answer will do, the codes of the term
types, and how many rows it deals with at once. -/
structure Store where
  source : Source
  codes : TypeCodes
  batch : BatchSize

/-- Adds the names of the term types to the type codes. Each takes an id, even if it is there. -/
def registerTypes (types : List TermType) : Action Storage Unit :=
  types.forM fun type => Action.transact fun db =>
    match db.typeCodes.insertNext type.name with
    | some codes => .ok ((), { db with typeCodes := codes })
    | none => .error .storageFull

/-- The codes of the term types; other names are passed over. -/
def Database.knownCodes (db : Database) : TypeCodes :=
  TypeCodes.ofPairs (db.typeCodes.rows.filterMap fun row =>
    (TermType.ofName? row.2).map fun type => (type, row.1))

/-- Reads the codes of the term types from the primary, after adding those that have none. -/
def loadCodes : Action Storage TypeCodes := do
  registerTypes TermType.all
  Action.query .primary Database.knownCodes

namespace Store

def connect (source : Source) (batch : BatchSize) : Action Storage Store := do
  return ⟨source, ← loadCodes, batch⟩

/-- Interns a term set. When a row that the source still knows is gone from the primary, it starts
again from the primary. -/
def intern (store : Store) (terms : TermSet) : Action Storage Interned :=
  (internFrom store.codes store.batch store.source terms none).rescue fun failure =>
    match failure with
    | .missingParent _ _ => some (internFrom store.codes store.batch .primary terms none)
    | _ => none

/-- Checks ids that have been handed out. Those that are gone from the primary are put back onto
their texts; when that cannot be done, the texts get other ids. -/
def reconcile (store : Store) (terms : TermSet) (ids : TermIds) : Action Storage Acquired := do
  let lost ← Action.query .primary fun db => db.absentIds store.batch .termInLang ids.ids
  if lost.isEmpty then return ⟨ids, none⟩
  else do
    let interned ← internFrom store.codes store.batch .primary terms (some ⟨ids, lost⟩)
    return ⟨interned.ids, interned.mismatch.map fun mismatch => ⟨lost, mismatch.recordsToInsert⟩⟩

/-- Interns a term set and hands its distinct ids to the callback, which may link them; afterwards
none of the ids is missing. The callback runs for an empty term set too. -/
def acquireWith {σ : Type} [HasStorage σ] (store : Store) (terms : TermSet)
    (callback : List RowId → Action σ Unit) : Action σ Acquired :=
  if terms.isEmpty then do
    callback []
    return Acquired.empty
  else do
    let interned ← Action.onStorage (store.intern terms)
    callback interned.ids.ids
    Action.onStorage (store.reconcile terms interned.ids)

def acquire (store : Store) (terms : TermSet) : Action Storage Acquired :=
  store.acquireWith terms fun _ => return ()

end Store

end Termbase
