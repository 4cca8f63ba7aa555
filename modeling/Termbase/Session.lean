import Termbase.Session.Step

namespace Termbase

/-- Stores that share a storage, and lookups over them. -/
structure Session where
  storage : Storage
  main : Store
  direct : Store
  custom : Store
  lookups : List (String × Via × Lookup)
  /-- The ids that the callback which has started last was given. -/
  produced : List RowId

instance : HasStorage Session where
  storage := Session.storage
  withStorage := fun session storage => { session with storage := storage }
  storage_withStorage := fun _ _ => rfl
  withStorage_storage := fun _ => rfl
  withStorage_withStorage := fun _ _ _ => rfl

instance {α β : Type} [HasStorage α] : HasStorage (α × β) where
  storage := fun state => HasStorage.storage state.1
  withStorage := fun state storage => (HasStorage.withStorage state.1 storage, state.2)
  storage_withStorage := fun state stored => HasStorage.storage_withStorage state.1 stored
  withStorage_storage := fun state => by rw [HasStorage.withStorage_storage]
  withStorage_withStorage := fun state first second => by
    simp only [HasStorage.withStorage_withStorage]

namespace Session

/-- Opens a main store and a direct store over an empty storage in which some type codes have been
registered already. -/
def start (source : Source) (batchSize : Nat) (typeCodes : List (RowId × String)) :
    Except Failure Session := do
  let batch ← BatchSize.ofNat batchSize
  let codes := typeCodes.foldl (fun (table : Table String) row => table.insertAt row.1 row.2)
    Table.empty
  let storage : Storage := ⟨{ Database.empty with typeCodes := codes }, Database.empty⟩
  let opening : Action Storage (Store × Store) := do
    return (← Store.connect source batch, ← Store.connect .primary batch)
  match opening.run storage with
  | (.ok (main, direct), storage) => return ⟨storage, main, direct, main, [], []⟩
  | (.error failure, _) => .error failure

def withCodes (session : Session) (codes : TypeCodes) : Session :=
  { session with custom := { session.main with codes := codes } }

def store (session : Session) : Via → Store
  | .main => session.main
  | .direct => session.direct
  | .custom => session.custom

def idsOf (session : Session) : IdChoice → List RowId
  | .given ids => ids
  | .produced => session.produced

/-- A lookup by its name, with the store it reads. Without such a lookup it is a new one for
items. -/
def lookup (session : Session) (name : String) : Via × Lookup :=
  (session.lookups.lookup name).getD (.main, Lookup.ofKind .item)

def withLookup (session : Session) (name : String) (via : Via) (lookup : Lookup) : Session :=
  { session with lookups := assign name (via, lookup) session.lookups }

def counts (session : Session) : List Nat :=
  session.storage.primary.rowCounts.map Prod.snd

def act {α : Type} (outcome : α → Outcome) (action : Action Storage α) : Action Session Outcome :=
  do return outcome (← Action.onStorage action)

def fetchWith {α : Type} (outcome : α → Outcome) (name : String)
    (fetch : TermSource Session → Lookup → Action Session (Lookup × α)) :
    Action Session Outcome := do
  let session ← Action.read id
  let (via, lookup) := session.lookup name
  let (lookup, result) ← fetch (session.store via).termSource lookup
  Action.update fun session => session.withLookup name via lookup
  return outcome result

def readWith {α : Type} (outcome : α → Outcome) (name : String)
    (read : Lookup → Except Failure α) : Action Session Outcome := do
  let session ← Action.read id
  return outcome (← Action.ofResult (read (session.lookup name).2))

def serve (via : Via) (request : Request) : Action Session Outcome := do
  let session ← Action.read id
  let store := session.store via
  match request with
  | .acquire terms => act .acquired (store.acquire terms)
  | .clean ids => act .cleaned (clean store.batch (session.idsOf ids))
  | .storeTerms entity terms => act .acquired (store.storeTerms entity terms)
  | .deleteTerms entity => act .cleaned (store.deleteTerms entity)
  | .linkedIds entities => act .linked (store.linkedIdsOf entities)
  | .resolveGroups groups selection => act .resolved (store.resolveGroups groups selection)
  | .resolve ids selection => act .terms (store.resolve (session.idsOf ids) selection)
  | .resolveEntities entities selection => act .resolved do
    store.resolveGroups (← store.linkedIdsOf entities) selection
  | .acquireIds level records forced primaryOnly =>
    act (fun ids => .recordIds level ids records)
      (acquireIds store.batch (if primaryOnly then .primary else store.source) level records
        forced)
  | .codeOf type => return .code (← Action.ofResult (store.codes.codeOf type))
  | .typeOf code => return .termType (← Action.ofResult (store.codes.typeOf code))
  | .sync parts =>
    if store.source = .primary then return .done
    else act (fun _ => .done) (Action.update fun storage => storage.sync parts)
  | .dump source =>
    let source := if source = .replica then store.source else source
    return .contents (session.storage.database source)
  | .openLookup name kind =>
    Action.update fun session => session.withLookup name via (Lookup.ofKind kind)
    return .kind kind
  | .prefetch name entities types languages =>
    fetchWith (fun _ => .done) name fun source lookup => do
      return (← lookup.prefetch source entities types languages, ())
  | .readText name entity type language =>
    readWith .reading name fun lookup => lookup.read entity type language
  | .readSynonyms name entity language =>
    readWith .texts? name fun lookup => lookup.readSynonyms entity language
  | .fetchText name entity type language =>
    fetchWith .text? name fun source lookup => lookup.fetch source entity type language
  | .fetchSynonyms name entity language =>
    fetchWith (fun texts => .texts? (some texts)) name fun source lookup =>
      lookup.fetchSynonyms source entity language

structure Transcript where
  given : Option (List RowId)
  answers : List Answer

/-- The result of taking steps: the answers, and the failure of a step that ends them early. -/
abbrev Taken := List Answer × Except Failure Unit

/-- A callback that takes steps in the session and writes down their answers. -/
def callback (steps : Session → Taken × Session) (ids : List RowId) :
    Action (Session × Transcript) Unit := fun state =>
  match steps { state.1 with produced := ids } with
  | ((answers, ended), session) => (ended, session, ⟨some ids, answers⟩)

def call (via : Via) (terms : TermSet) (steps : Session → Taken × Session) (session : Session) :
    Answer × Session :=
  match (session.store via).acquireWith terms (callback steps) (session, ⟨none, []⟩) with
  | (outcome, after, transcript) =>
    (.called outcome transcript.given transcript.answers after.counts, after)

mutual

def take : List Step → Session → Taken × Session
  | [], session => (([], .ok ()), session)
  | step :: steps, session =>
    match takeOne step session with
    | (.error failure, after) => (([], .error failure), after)
    | (.ok answer, after) =>
      match take steps after with
      | ((answers, ended), last) => ((answer :: answers, ended), last)

/-- Takes a step. It has no answer when it ends the steps. -/
def takeOne : Step → Session → Except Failure Answer × Session
  | .request via request, session =>
    match serve via request session with
    | (outcome, after) => (.ok (.plain outcome after.counts), after)
  | .acquireWith via terms steps, session =>
    match call via terms (take steps) session with
    | (answer, after) => (.ok answer, after)
  | .refused failure, session => (.ok (.plain (.error failure) session.counts), session)
  | .abort failure, session => (.error failure, session)

end

end Session

end Termbase
