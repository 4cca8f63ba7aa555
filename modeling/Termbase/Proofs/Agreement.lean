import Termbase.Lookup
import Termbase.Proofs.Acquiring
import Termbase.Proofs.Batching
import Termbase.Store.Links

namespace Termbase

/-- Both fail in the same way, or both give related results. -/
inductive ResultsAlike {α : Type} (related : α → α → Prop) :
    Except Failure α → Except Failure α → Prop
  | ok {x y} : related x y → ResultsAlike related (.ok x) (.ok y)
  | error (failure) : ResultsAlike related (.error failure) (.error failure)

theorem ResultsAlike.of_eq {α : Type} {related : α → α → Prop} (refl : ∀ x, related x x)
    (result : Except Failure α) : ResultsAlike related result result := by
  cases result with
  | error failure => exact .error failure
  | ok x => exact .ok (refl x)

theorem ResultsAlike.eq {α : Type} {result other : Except Failure α}
    (h : ResultsAlike Eq result other) : result = other := by
  cases h with
  | ok same => rw [same]
  | error => rfl

/-- In one of two runs a statement has been refused. -/
def EitherRefused {α : Type} (result other : Except Failure α) : Prop :=
  result = .error .statementTooDeep ∨ other = .error .statementTooDeep

/-- From these two states the actions have like results, and they leave related states. If the
batch sizes are `apart`, a statement may be refused in one of the runs instead. -/
def Action.AgreeFrom {σ α : Type} (apart : Prop) (states : σ → σ → Prop) (results : α → α → Prop)
    (action other : Action σ α) (state twin : σ) : Prop :=
  ResultsAlike results (action.run state).1 (other.run twin).1 ∧
      states (action.run state).2 (other.run twin).2 ∨
    apart ∧ EitherRefused (action.run state).1 (other.run twin).1

namespace Action.AgreeFrom

variable {σ α β : Type} {apart : Prop} {states : σ → σ → Prop} {results : α → α → Prop}
  {lasts : β → β → Prop} {state twin : σ}

theorem pure {x y : α} (related : states state twin) (h : results x y) :
    AgreeFrom apart states results (Pure.pure x : Action σ α) (Pure.pure y) state twin :=
  Or.inl ⟨.ok h, related⟩

theorem of_run_eq {action other : Action σ α} (h : action.run state = other.run state) :
    AgreeFrom apart Eq Eq action other state state := by
  unfold AgreeFrom
  rw [h]
  exact Or.inl ⟨.of_eq (fun _ => rfl) _, rfl⟩

theorem bind {action other : Action σ α} {next following : α → Action σ β}
    (first : AgreeFrom apart states results action other state twin)
    (second : ∀ x y after last, action.run state = (.ok x, after) → results x y →
      states after last → AgreeFrom apart states lasts (next x) (following y) after last) :
    AgreeFrom apart states lasts (action >>= next) (other >>= following) state twin := by
  unfold AgreeFrom at first ⊢
  rw [run_bind, run_bind]
  rcases hrun : action.run state with ⟨outcome, after⟩
  rcases hother : other.run twin with ⟨result, last⟩
  rw [hrun, hother] at first
  rcases first with ⟨alike, related⟩ | ⟨apart, refused⟩
  · cases alike with
    | error failure => exact Or.inl ⟨.error failure, related⟩
    | ok h => exact second _ _ _ _ hrun h related
  · -- A failure of the first action is one of the whole.
    refine Or.inr ⟨apart, refused.imp (fun h => ?_) fun h => ?_⟩
    all_goals
      cases h
      rfl

/-- An action that is bound to actions with the same result. -/
theorem same_bind {action other : Action σ α} {next following : α → Action σ β}
    (first : AgreeFrom apart Eq Eq action other state state)
    (second : ∀ x after, AgreeFrom apart Eq lasts (next x) (following x) after after) :
    AgreeFrom apart Eq lasts (action >>= next) (other >>= following) state state := by
  refine first.bind fun x _ after _ _ same stays => ?_
  cases same
  cases stays
  exact second x after

theorem ofResult_bind {result : Except Failure α} {next following : α → Action σ β}
    (related : states state twin)
    (second : ∀ x, AgreeFrom apart states lasts (next x) (following x) state twin) :
    AgreeFrom apart states lasts (Action.ofResult result >>= next)
      (Action.ofResult result >>= following) state twin := by
  cases result with
  | error failure => exact Or.inl ⟨.error failure, related⟩
  | ok x => exact second x

theorem query_bind {storage : Storage} {source other : Source} {view look : Database → α}
    {next following : α → Action Storage β}
    (second : AgreeFrom apart Eq lasts (next (view (storage.database source)))
      (following (look (storage.database other))) storage storage) :
    AgreeFrom apart Eq lasts (Action.query source view >>= next)
      (Action.query other look >>= following) storage storage :=
  second

/-- If a refused statement is not handled, it counts as refused in the end. -/
theorem rescue {action other : Action σ α} {handler fallback : Failure → Option (Action σ α)}
    (first : AgreeFrom apart states results action other state twin)
    (unhandled : apart →
      handler .statementTooDeep = none ∧ fallback .statementTooDeep = none)
    (second : ∀ failure after last, states after last →
      handler failure = none ∧ fallback failure = none ∨
        ∃ again back, handler failure = some again ∧ fallback failure = some back ∧
          AgreeFrom apart states results again back after last) :
    AgreeFrom apart states results (action.rescue handler) (other.rescue fallback) state twin := by
  unfold AgreeFrom at first ⊢
  rw [run_rescue, run_rescue]
  rcases hrun : action.run state with ⟨outcome, after⟩
  rcases hother : other.run twin with ⟨result, last⟩
  rw [hrun, hother] at first
  rcases first with ⟨alike, related⟩ | ⟨apart, refused⟩
  · cases alike with
    | ok h => exact Or.inl ⟨.ok h, related⟩
    | error failure =>
      rcases second failure after last related with
        ⟨hnone, hno⟩ | ⟨again, back, hsome, hback, agree⟩
      · simp only [hnone, hno]
        exact Or.inl ⟨.error failure, related⟩
      · simp only [hsome, hback]
        exact agree
  · obtain ⟨hnone, hno⟩ := unhandled apart
    refine Or.inr ⟨apart, refused.imp (fun h => ?_) fun h => ?_⟩
    · cases h
      simp only [hnone]
    · cases h
      simp only [hno]

/-- An action on the storage that the states share. -/
theorem onStorage [HasStorage σ] {action other : Action Storage α}
    (keep : ∀ stored, states (HasStorage.withStorage state stored)
      (HasStorage.withStorage twin stored))
    (h : AgreeFrom apart Eq results action other (HasStorage.storage state)
      (HasStorage.storage twin)) :
    AgreeFrom apart states results (Action.onStorage action : Action σ α)
      (Action.onStorage other) state twin := by
  unfold AgreeFrom at h ⊢
  rw [run_onStorage, run_onStorage]
  refine h.imp (fun ⟨alike, same⟩ => ⟨alike, ?_⟩) id
  rw [same]
  exact keep _

end Action.AgreeFrom

/-- The actions agree from all related states. -/
def Action.Agree {σ α : Type} (apart : Prop) (states : σ → σ → Prop) (results : α → α → Prop)
    (action other : Action σ α) : Prop :=
  ∀ state twin, states state twin → action.AgreeFrom apart states results other state twin

namespace Action.Agree

variable {σ α β : Type} {apart : Prop} {states : σ → σ → Prop} {results : α → α → Prop}
  {lasts : β → β → Prop}

theorem pure {x y : α} (h : results x y) :
    Agree apart states results (Pure.pure x : Action σ α) (Pure.pure y) :=
  fun _ _ related => .pure related h

theorem ofResult (refl : ∀ x, results x x) (result : Except Failure α) :
    Agree apart states results (Action.ofResult result) (Action.ofResult result) :=
  fun _ _ related => Or.inl ⟨.of_eq refl result, related⟩

theorem bind {action other : Action σ α} {next following : α → Action σ β}
    (first : Agree apart states results action other)
    (second : ∀ x y, results x y → Agree apart states lasts (next x) (following y)) :
    Agree apart states lasts (action >>= next) (other >>= following) :=
  fun state twin related => (first state twin related).bind fun x y after last _ h =>
    second x y h after last

theorem bind_same {action other : Action σ α} {next following : α → Action σ β}
    (first : Agree apart states Eq action other)
    (second : ∀ x, Agree apart states lasts (next x) (following x)) :
    Agree apart states lasts (action >>= next) (other >>= following) :=
  first.bind fun x _ same => same ▸ second x

theorem read_bind {next following : σ → Action σ β}
    (second : ∀ state twin, states state twin →
      Agree apart states lasts (next state) (following twin)) :
    Agree apart states lasts (Action.read id >>= next) (Action.read id >>= following) :=
  fun state twin related => second state twin related state twin related

theorem update {change : σ → σ} {other : σ → σ}
    (changed : ∀ state twin, states state twin → states (change state) (other twin)) :
    Agree apart states Eq (Action.update change) (Action.update other) :=
  fun state twin related => Or.inl ⟨.ok rfl, changed state twin related⟩

/-- Actions without a way out agree with one as well. -/
theorem widen {action other : Action σ α} (h : Agree False states results action other) :
    Agree apart states results action other :=
  fun state twin related => (h state twin related).imp_right fun refused => refused.1.elim

end Action.Agree

/-- From this state the actions have like results, and they leave the same state. -/
def Action.AgreeAt {σ α : Type} (state : σ) (results : α → α → Prop) (action other : Action σ α) :
    Prop :=
  ResultsAlike results (action.run state).1 (other.run state).1 ∧
    (action.run state).2 = (other.run state).2

namespace Action.AgreeFrom

variable {σ α : Type} {state : σ} {results : α → α → Prop} {action other : Action σ α}

/-- With batch sizes that are not apart, no way out is left. -/
theorem agreeAt (h : AgreeFrom False Eq results action other state state) :
    AgreeAt state results action other :=
  h.resolve_right fun refused => refused.1

theorem run_cases {apart : Prop} (h : AgreeFrom apart Eq Eq action other state state) :
    action.run state = other.run state ∨
      apart ∧ EitherRefused (action.run state).1 (other.run state).1 :=
  h.imp_left fun ⟨alike, same⟩ => Prod.ext alike.eq same

theorem run_eq (h : AgreeFrom False Eq Eq action other state state) :
    action.run state = other.run state :=
  h.run_cases.resolve_right fun refused => refused.1

end Action.AgreeFrom

/-- The same ids for the same records, maybe in another order. -/
structure RecordIds.Alike {level : Level} (ids other : RecordIds level) : Prop where
  entries : ids.entries.Perm other.entries
  keys_nodup : (ids.entries.map Prod.fst).Nodup
  mismatch : ids.mismatch = other.mismatch

theorem RecordIds.Alike.idOf {level : Level} {ids other : RecordIds level} (h : ids.Alike other) :
    ids.idOf = other.idOf := by
  have others_nodup : (other.entries.map Prod.fst).Nodup :=
    (h.entries.map Prod.fst).nodup_iff.mp h.keys_nodup
  have lookups : ∀ record, ids.entries.lookup record = other.entries.lookup record := by
    intro record
    refine Option.ext fun id => ?_
    rw [lookup_eq_some_iff_mem h.keys_nodup, lookup_eq_some_iff_mem others_nodup,
      h.entries.mem_iff]
  funext record
  unfold RecordIds.idOf
  rw [lookups]

/-- Both sources have the same rows at the level. -/
def Storage.ReadsAlike (storage : Storage) (source other : Source) (level : Level) : Prop :=
  ∀ row, row ∈ ((storage.database source).table level).rows ↔
    row ∈ ((storage.database other).table level).rows

theorem Database.unknown_congr {db other : Database} {level : Level}
    (same : ∀ row, row ∈ (db.table level).rows ↔ row ∈ (other.table level).rows)
    (records : List level.Record) : db.unknown level records = other.unknown level records := by
  unfold unknown
  refine List.filter_congr fun record _ => decide_eq_decide.mpr (not_congr ?_)
  simp only [Table.mem_records, same]

/-- Statements for full batches of both sizes are taken, or for those of neither. -/
def BatchSize.Alike (first second : BatchSize) : Prop :=
  ∀ level : Level, level.Accepts first.rows ↔ level.Accepts second.rows

namespace BatchSize

variable {first second : BatchSize} {level : Level} {records : Nat}

theorem Alike.refl (batch : BatchSize) : batch.Alike batch := fun _ => Iff.rfl

theorem admits_iff {batch : BatchSize} :
    batch.Admits level records ↔ level.Accepts batch.rows ∨ level.Accepts records := by
  unfold Admits Level.Accepts
  omega

theorem Alike.admits (alike : first.Alike second) :
    first.Admits level records ↔ second.Admits level records := by
  rw [admits_iff, admits_iff, alike level]

end BatchSize

section Batches

variable {first second : BatchSize}

/-- The known records and the inserted ones are different. -/
theorem Database.idsOf_append_nodup (known : Database) {level : Level}
    (records : List level.Record) (inserted : Database) :
    ((known.idsOf first level records ++
      inserted.idsOf first level (known.unknown level records)).map Prod.fst).Nodup := by
  rw [List.map_append, List.nodup_append]
  refine ⟨firstPerKey_keys_nodup _, firstPerKey_keys_nodup _, ?_⟩
  rintro record hknown _ hinserted rfl
  obtain ⟨entry, hentry, rfl⟩ := List.mem_map.mp hknown
  obtain ⟨other, hother, same⟩ := List.mem_map.mp hinserted
  have unknown := (mem_unknown.mp (mem_idsOf.mp hother).1).2
  rw [same] at unknown
  exact unknown (Table.mem_records.mpr ⟨_, (mem_idsOf.mp hentry).2⟩)

section Acquiring

variable {storage : Storage} {source other : Source} {level : Level}

/-- When no statement is refused, neither the batches nor the source matter, as long as the sources
have the same rows. -/
theorem acquireIds_agreeAt (alike : storage.ReadsAlike source other level)
    {records : List level.Record} (admits : first.Admits level records.length)
    (also : second.Admits level records.length) (forced : Option (ForcedIds level)) :
    Action.AgreeAt storage RecordIds.Alike (acquireIds first source level records forced)
      (acquireIds second other level records forced) := by
  by_cases some : records = []
  · subst some
    exact ⟨.ok ⟨.refl _, List.nodup_nil, rfl⟩, rfl⟩
  have perm := Database.idsOf_perm first second alike records
  have nodup := @Database.idsOf_append_nodup first (storage.database source) level records
  unfold Action.AgreeAt
  rw [acquireIds_run admits some, acquireIds_run also some]
  rw [Database.unknown_congr alike records] at nodup ⊢
  rw [Database.insertRecords_batch first second]
  split
  next => exact ⟨.ok ⟨perm, firstPerKey_keys_nodup _, rfl⟩, rfl⟩
  next =>
    split
    next failure _ => exact ⟨.error failure, rfl⟩
    next primary _ =>
      have inserted : ∀ unknown : List level.Record,
          (primary.idsOf first level unknown).Perm (primary.idsOf second level unknown) :=
        Database.idsOf_perm first second fun _ => Iff.rfl
      -- How many ids there are decides about an error, and that does not depend on their order.
      simp only [(inserted _).length_eq]
      split
      next => exact ⟨.error _, rfl⟩
      next => exact ⟨.ok ⟨perm.append (inserted _), nodup primary, rfl⟩, rfl⟩

theorem acquireIds_agree {apart : Prop} (sizes : first.Alike second ∨ apart)
    (alike : storage.ReadsAlike source other level) (records : List level.Record)
    (forced : Option (ForcedIds level)) :
    Action.AgreeFrom apart Eq RecordIds.Alike (acquireIds first source level records forced)
      (acquireIds second other level records forced) storage storage := by
  by_cases admits : first.Admits level records.length <;>
    by_cases also : second.Admits level records.length
  · exact Or.inl (acquireIds_agreeAt alike admits also forced)
  · refine Or.inr ⟨sizes.resolve_left fun same => also (same.admits.mp admits), Or.inr ?_⟩
    rw [acquireIds_declined also]
  · refine Or.inr ⟨sizes.resolve_left fun same => admits (same.admits.mpr also), Or.inl ?_⟩
    rw [acquireIds_declined admits]
  · unfold Action.AgreeFrom
    rw [acquireIds_declined admits, acquireIds_declined also]
    exact Or.inl ⟨.error _, rfl⟩

end Acquiring

/-- Giving ids to the records of one level leaves the sources alike at the others. -/
theorem Storage.ReadsAlike.acquired {storage after : Storage} {source other : Source}
    {level next : Level} (alike : storage.ReadsAlike source other next) (different : next ≠ level)
    {batch : BatchSize} {records : List level.Record} {forced : Option (ForcedIds level)}
    {reader : Source} {outcome : Except Failure (RecordIds level)}
    (run : (acquireIds batch reader level records forced).run storage = (outcome, after)) :
    after.ReadsAlike source other next := by
  have acquires := acquireIds_acquires run
  have kept : ∀ source, (after.database source).table next =
      (storage.database source).table next := by
    intro source
    cases source with
    | primary => exact acquires.other different
    | replica => exact congrArg (fun db : Database => db.table next) acquires.grows.replica
  unfold ReadsAlike
  rw [kept, kept]
  exact alike

/-- A pass reads the table of its own level only, and no pass before it has written there. -/
theorem internFrom_agree {apart : Prop} (sizes : first.Alike second ∨ apart) {storage : Storage}
    {source other : Source} (alike : ∀ level, storage.ReadsAlike source other level)
    (codes : TypeCodes) (terms : TermSet) (restoration : Option Restoration) :
    Action.AgreeFrom apart Eq Eq (internFrom codes first source terms restoration)
      (internFrom codes second other terms restoration) storage storage := by
  -- The levels above only look ids up by their records, so the order is gone at the next level.
  unfold internFrom
  refine (acquireIds_agree sizes (alike .text) _ none).bind
    fun texts others between _ hrun same stays => ?_
  cases stays
  have alikeBetween := fun level different => (alike level).acquired different hrun
  have lower : textInLangOf texts = textInLangOf others := by
    funext language text
    unfold textInLangOf
    rw [same.idOf]
  rw [lower]
  refine .ofResult_bind rfl fun records => ?_
  refine (acquireIds_agree sizes (alikeBetween .textInLang (by decide)) _ none).bind
    fun phrases other last _ hlast like stays => ?_
  cases stays
  have recordOf : LowerIds.termOf ⟨texts, phrases⟩ = LowerIds.termOf ⟨others, other⟩ := by
    funext codes type language text
    unfold LowerIds.termOf
    rw [lower, like.idOf]
  rw [recordOf]
  refine .ofResult_bind rfl fun _ => .ofResult_bind rfl fun records =>
    .ofResult_bind rfl fun forced => ?_
  have alikeLast := (alikeBetween .termInLang (by decide)).acquired (by decide) hlast
  refine (acquireIds_agree sizes alikeLast _ forced).bind
    fun acquired other last _ _ same stays => ?_
  cases stays
  have shaped : ∀ recordOf, shapedIds terms acquired recordOf = shapedIds terms other recordOf := by
    intro recordOf
    unfold shapedIds
    rw [same.idOf]
  rw [shaped, same.mismatch]
  exact .of_run_eq rfl

theorem clean_batch (first second : BatchSize) (ids : List RowId) :
    clean first ids = clean second ids := by
  unfold clean
  simp only [Database.clean_batch first second]

end Batches

theorem Store.deleteTerms_batch (store other : Store) (entity : EntityId) :
    store.deleteTerms entity = other.deleteTerms entity := by
  unfold Store.deleteTerms
  simp only [clean_batch store.batch other.batch]

namespace Store

variable {apart : Prop} {store other : Store} (codes : store.codes = other.codes)
  (sizes : store.batch.Alike other.batch ∨ apart) {storage : Storage}

include codes sizes

theorem intern_agree (reads : ∀ level, storage.ReadsAlike store.source other.source level)
    (terms : TermSet) :
    Action.AgreeFrom apart Eq Eq (store.intern terms) (other.intern terms) storage storage := by
  unfold intern
  rw [← codes]
  refine .rescue (internFrom_agree sizes reads _ terms none) (fun _ => ⟨rfl, rfl⟩)
    fun failure after last stays => ?_
  cases stays
  split
  next => exact Or.inr ⟨_, _, rfl, rfl, internFrom_agree sizes (fun _ _ => Iff.rfl) _ terms none⟩
  next => exact Or.inl ⟨rfl, rfl⟩

theorem reconcile_agree (terms : TermSet) (ids : TermIds) :
    Action.AgreeFrom apart Eq Eq (store.reconcile terms ids) (other.reconcile terms ids) storage
      storage := by
  unfold reconcile
  refine .query_bind ?_
  rw [Database.absentIds_batch store.batch other.batch, ← codes]
  split
  next => exact .of_run_eq rfl
  next =>
    exact (internFrom_agree sizes (fun _ _ => Iff.rfl) _ terms _).same_bind fun _ _ =>
      .of_run_eq rfl

theorem acquireWith_agree (reads : ∀ level, storage.ReadsAlike store.source other.source level)
    (terms : TermSet) (callback : List RowId → Action Storage Unit) :
    Action.AgreeFrom apart Eq Eq (store.acquireWith terms callback)
      (other.acquireWith terms callback) storage storage := by
  unfold acquireWith
  split
  next => exact .of_run_eq rfl
  next =>
    refine .same_bind (.onStorage (fun _ => rfl) (intern_agree codes sizes reads terms))
      fun interned _ => .same_bind (.of_run_eq rfl) fun _ _ => ?_
    exact .onStorage (fun _ => rfl) (reconcile_agree codes sizes terms _)

theorem storeTerms_agree (reads : ∀ level, storage.ReadsAlike store.source other.source level)
    (entity : EntityId) (terms : TermSet) :
    Action.AgreeFrom apart Eq Eq (store.storeTerms entity terms) (other.storeTerms entity terms)
      storage storage := by
  unfold storeTerms
  refine .query_bind ?_
  refine (acquireWith_agree codes sizes reads terms _).same_bind fun acquired _ => ?_
  simp only [clean_batch store.batch other.batch]
  exact .of_run_eq rfl

end Store

/-- The stores read the same and have the same codes. Their batch sizes may be apart. -/
structure Store.Alike (apart : Prop) (store other : Store) : Prop where
  source : store.source = other.source
  codes : store.codes = other.codes
  sizes : store.batch.Alike other.batch ∨ apart

namespace Store.Alike

variable {apart : Prop} {store other : Store} (alike : store.Alike apart other)

include alike

theorem readsAlike (storage : Storage) (level : Level) :
    storage.ReadsAlike store.source other.source level := by
  rw [alike.source]
  exact fun _ => Iff.rfl

theorem linkedIdsOf (entities : List EntityId) :
    store.linkedIdsOf entities = other.linkedIdsOf entities := by
  unfold Store.linkedIdsOf
  simp only [alike.source, Database.linkedIdsOf_batch store.batch other.batch]

theorem resolveGroups {κ : Type} (groups : List (κ × List RowId)) (selection : Selection) :
    store.resolveGroups groups selection = other.resolveGroups groups selection := by
  unfold Store.resolveGroups
  simp only [alike.source, alike.codes, Database.storedTerms_batch store.batch other.batch]

theorem resolve (ids : List RowId) (selection : Selection) :
    store.resolve ids selection = other.resolve ids selection := by
  unfold Store.resolve
  rw [alike.resolveGroups]

theorem termSource {σ : Type} [HasStorage σ] :
    (store.termSource : TermSource σ) = other.termSource := by
  unfold Store.termSource
  simp only [alike.linkedIdsOf, alike.resolveGroups]

end Store.Alike

end Termbase
