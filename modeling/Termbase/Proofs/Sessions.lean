import Termbase.Proofs.Agreement
import Termbase.Proofs.Stores
import Termbase.Session

namespace Termbase

/-- The same outcome, but for the order in which the ids of records are listed. -/
inductive Outcome.Alike : Outcome → Outcome → Prop
  | same (outcome) : Alike outcome outcome
  | recordIds {level ids other} (requested) : ids.Alike other →
      Alike (.recordIds level ids requested) (.recordIds level other requested)

inductive Answer.Alike : Answer → Answer → Prop
  | plain {outcome other counts} : ResultsAlike Outcome.Alike outcome other →
      Alike (.plain outcome counts) (.plain other counts)
  | called {outcome given answers others counts} : List.Forall₂ Alike answers others →
      Alike (.called outcome given answers counts) (.called outcome given others counts)

/-- A statement has been refused in the step, or in a step of its callback. -/
inductive Answer.Refused : Answer → Prop
  | plain {counts} : Refused (.plain (.error .statementTooDeep) counts)
  | called {given answers counts} :
      Refused (.called (.error .statementTooDeep) given answers counts)
  | nested {outcome given answers counts answer} : answer ∈ answers → Refused answer →
      Refused (.called outcome given answers counts)

def AnyRefused (answers : List Answer) : Prop :=
  ∃ answer ∈ answers, answer.Refused

theorem AnyRefused.later {answer : Answer} {answers : List Answer} (h : AnyRefused answers) :
    AnyRefused (answer :: answers) := by
  obtain ⟨other, mem, refused⟩ := h
  exact ⟨other, List.mem_cons_of_mem _ mem, refused⟩

theorem AnyRefused.called {outcome : Except Failure Acquired} {given : Option (List RowId)}
    {answers : List Answer} {counts : List Nat} (h : AnyRefused answers) :
    (Answer.called outcome given answers counts).Refused := by
  obtain ⟨answer, mem, refused⟩ := h
  exact .nested mem refused

theorem EitherRefused.called {outcome result : Except Failure Acquired}
    {given : Option (List RowId)} {answers others : List Answer} {counts other : List Nat}
    (h : EitherRefused outcome result) : (Answer.called outcome given answers counts).Refused ∨
      (Answer.called result given others other).Refused := by
  refine h.imp (fun h => ?_) fun h => ?_
  all_goals
    cases h
    exact .called

namespace Session

/-- The sessions differ in the batch sizes of their stores only, and these may be `apart`. -/
structure Alike (apart : Prop) (session other : Session) : Prop where
  storage : session.storage = other.storage
  main : session.main.Alike apart other.main
  direct : session.direct.Alike apart other.direct
  custom : session.custom.Alike apart other.custom
  lookups : session.lookups = other.lookups
  produced : session.produced = other.produced

variable {apart : Prop}

namespace Alike

variable {session other : Session}

theorem store (h : session.Alike apart other) (via : Via) :
    (session.store via).Alike apart (other.store via) := by
  cases via with
  | main => exact h.main
  | direct => exact h.direct
  | custom => exact h.custom

theorem withStorage (h : session.Alike apart other) (stored : Storage) :
    ({ session with storage := stored } : Session).Alike apart { other with storage := stored } :=
  ⟨rfl, h.main, h.direct, h.custom, h.lookups, h.produced⟩

theorem withProduced (h : session.Alike apart other) (ids : List RowId) :
    ({ session with produced := ids } : Session).Alike apart { other with produced := ids } :=
  ⟨h.storage, h.main, h.direct, h.custom, h.lookups, rfl⟩

theorem withLookup (h : session.Alike apart other) (name : String) (via : Via) (lookup : Lookup) :
    (session.withLookup name via lookup).Alike apart (other.withLookup name via lookup) := by
  refine ⟨h.storage, h.main, h.direct, h.custom, ?_, h.produced⟩
  unfold Session.withLookup
  rw [h.lookups]

theorem withCodes (h : session.Alike apart other) (codes : TypeCodes) :
    (session.withCodes codes).Alike apart (other.withCodes codes) :=
  ⟨h.storage, h.main, h.direct, ⟨h.main.source, rfl, h.main.sizes⟩, h.lookups, h.produced⟩

theorem lookup (h : session.Alike apart other) (name : String) :
    session.lookup name = other.lookup name := by
  unfold Session.lookup
  rw [h.lookups]

theorem idsOf (h : session.Alike apart other) (choice : IdChoice) :
    session.idsOf choice = other.idsOf choice := by
  cases choice with
  | given => rfl
  | produced => exact h.produced

theorem counts (h : session.Alike apart other) : session.counts = other.counts := by
  unfold Session.counts
  rw [h.storage]

end Alike

theorem onStorage_agree {α : Type} {way : Prop} {results : α → α → Prop}
    {action other : Action Storage α}
    (h : ∀ storage, action.AgreeFrom way Eq results other storage storage) :
    Action.Agree way (Alike apart) results (Action.onStorage action : Action Session α)
      (Action.onStorage other) := by
  intro session twin related
  have same : HasStorage.storage twin = HasStorage.storage session := related.storage.symm
  refine .onStorage related.withStorage ?_
  rw [same]
  exact h _

theorem act_agree {α : Type} {results : α → α → Prop} {outcome : α → Outcome}
    {action other : Action Storage α}
    (h : ∀ storage, action.AgreeFrom apart Eq results other storage storage)
    (like : ∀ x y, results x y → (outcome x).Alike (outcome y)) :
    Action.Agree apart (Alike apart) Outcome.Alike (act outcome action) (act outcome other) :=
  (onStorage_agree h).bind fun x y related => .pure (like x y related)

/-- Acting with the same results gives the same outcomes. -/
theorem act_same {α : Type} (outcome : α → Outcome) {action other : Action Storage α}
    (h : ∀ storage, action.AgreeFrom apart Eq Eq other storage storage) :
    Action.Agree apart (Alike apart) Outcome.Alike (act outcome action) (act outcome other) :=
  act_agree h fun _ _ same => same ▸ .same _

theorem act_eq {α : Type} (outcome : α → Outcome) {action other : Action Storage α}
    (h : action = other) :
    Action.Agree apart (Alike apart) Outcome.Alike (act outcome action) (act outcome other) :=
  act_same outcome fun _ => .of_run_eq (by rw [h])

theorem readWith_agree {α : Type} (outcome : α → Outcome) (name : String)
    (read : Lookup → Except Failure α) :
    Action.Agree apart (Alike apart) Outcome.Alike (readWith outcome name read)
      (readWith outcome name read) := by
  unfold readWith
  refine .read_bind fun session other related => ?_
  rw [related.lookup]
  exact .bind_same (.ofResult (fun _ => rfl) _) fun _ => .pure (.same _)

/-- A lookup that only uses the source of a store fetches the same from stores that are alike. -/
theorem fetchWith_agree {α : Type} (outcome : α → Outcome) (name : String)
    {fetch : TermSource Session → Lookup → Action Session (Lookup × α)}
    (h : ∀ (store : Store) lookup, Action.Agree False (Alike apart) Eq
      (fetch store.termSource lookup) (fetch store.termSource lookup)) :
    Action.Agree apart (Alike apart) Outcome.Alike (fetchWith outcome name fetch)
      (fetchWith outcome name fetch) := by
  unfold fetchWith
  refine .read_bind fun session other related => ?_
  rw [related.lookup]
  obtain ⟨via, lookup⟩ := other.lookup name
  simp only [(related.store via).termSource]
  refine .bind_same (h _ lookup).widen fun fetched => ?_
  exact .bind_same (.update fun _ _ related => related.withLookup name via _) fun _ =>
    .pure (.same _)

-- A lookup wraps the failures of its store, and no statement of its reads is ever refused.
theorem wrapped_agree {α : Type} {action other : Action Session α}
    (h : Action.Agree False (Alike apart) Eq action other) :
    Action.Agree False (Alike apart) Eq (Lookup.wrapped action) (Lookup.wrapped other) :=
  fun session twin related => .rescue (h session twin related) False.elim
    fun _ _ _ stays => Or.inr ⟨_, _, rfl, rfl, Or.inl ⟨.error _, stays⟩⟩

theorem prefetch_agree (store : Store) (lookup : Lookup) (entities : List EntityId)
    (types : List TermType) (languages : List String) :
    Action.Agree False (Alike apart) Eq
      (lookup.prefetch (store.termSource : TermSource Session) entities types languages)
      (lookup.prefetch store.termSource entities types languages) := by
  unfold Lookup.prefetch
  refine .bind_same (.ofResult (fun _ => rfl) _) fun _ => ?_
  dsimp only
  split
  next => exact .pure rfl
  next =>
    refine .bind_same (wrapped_agree (onStorage_agree fun _ => .of_run_eq rfl)) fun groups => ?_
    refine .bind_same (wrapped_agree (onStorage_agree fun _ => .of_run_eq rfl)) fun resolved => ?_
    exact .pure rfl

theorem fetch_agree (store : Store) (lookup : Lookup) (entity : EntityId) (type : TermType)
    (language : String) :
    Action.Agree False (Alike apart) Eq
      (lookup.fetch (store.termSource : TermSource Session) entity type language)
      (lookup.fetch store.termSource entity type language) := by
  unfold Lookup.fetch
  refine .bind_same (prefetch_agree store lookup _ _ _) fun lookup => ?_
  refine .bind_same (.ofResult (fun _ => rfl) _) fun reading => ?_
  split
  next => exact .pure rfl
  next => exact .pure rfl

theorem fetchSynonyms_agree (store : Store) (lookup : Lookup) (entity : EntityId)
    (language : String) :
    Action.Agree False (Alike apart) Eq
      (lookup.fetchSynonyms (store.termSource : TermSource Session) entity language)
      (lookup.fetchSynonyms store.termSource entity language) := by
  unfold Lookup.fetchSynonyms
  refine .bind_same (prefetch_agree store lookup _ _ _) fun lookup => ?_
  exact .bind_same (.ofResult (fun _ => rfl) _) fun _ => .pure rfl

theorem serve_agree (via : Via) (request : Request) :
    Action.Agree apart (Alike apart) Outcome.Alike (serve via request) (serve via request) := by
  unfold serve
  refine .read_bind fun session other related => ?_
  have alike := related.store via
  cases request with
  | acquire terms =>
    exact act_same _ fun storage =>
      Store.acquireWith_agree alike.codes alike.sizes (alike.readsAlike storage) terms _
  | clean ids =>
    dsimp only
    rw [related.idsOf]
    exact act_eq _ (clean_batch _ _ _)
  | storeTerms entity terms =>
    exact act_same _ fun storage =>
      Store.storeTerms_agree alike.codes alike.sizes (alike.readsAlike storage) entity terms
  | deleteTerms entity => exact act_eq _ (Store.deleteTerms_batch _ _ entity)
  | linkedIds entities => exact act_eq _ (alike.linkedIdsOf entities)
  | resolveGroups groups selection => exact act_eq _ (alike.resolveGroups groups selection)
  | resolve ids selection =>
    dsimp only
    rw [related.idsOf]
    exact act_eq _ (alike.resolve _ selection)
  | resolveEntities entities selection =>
    refine act_eq _ ?_
    simp only [alike.linkedIdsOf, alike.resolveGroups]
  | acquireIds level records forced primaryOnly =>
    dsimp only
    rw [alike.source]
    exact act_agree (fun _ => acquireIds_agree alike.sizes (fun _ => Iff.rfl) records forced)
      fun _ _ like => .recordIds records like
  | codeOf type =>
    dsimp only
    rw [alike.codes]
    exact .bind_same (.ofResult (fun _ => rfl) _) fun _ => .pure (.same _)
  | typeOf code =>
    dsimp only
    rw [alike.codes]
    exact .bind_same (.ofResult (fun _ => rfl) _) fun _ => .pure (.same _)
  | sync parts =>
    dsimp only
    rw [alike.source]
    split
    next => exact .pure (.same _)
    next => exact act_eq _ rfl
  | dump source =>
    dsimp only
    rw [alike.source, related.storage]
    exact .pure (.same _)
  | openLookup name kind =>
    exact .bind_same (.update fun _ _ related => related.withLookup name via _) fun _ =>
      .pure (.same _)
  | prefetch name entities types languages =>
    exact fetchWith_agree _ _ fun store lookup =>
      .bind_same (prefetch_agree store lookup _ _ _) fun _ => .pure rfl
  | readText name entity type language => exact readWith_agree _ _ _
  | readSynonyms name entity language => exact readWith_agree _ _ _
  | fetchText name entity type language =>
    exact fetchWith_agree _ _ fun store lookup => fetch_agree store lookup _ _ _
  | fetchSynonyms name entity language =>
    exact fetchWith_agree _ _ fun store lookup => fetchSynonyms_agree store lookup _ _

/-- The answers are alike, and the steps end in the same way. -/
structure TakenAlike (taken other : Taken) : Prop where
  answers : List.Forall₂ Answer.Alike taken.1 other.1
  ended : taken.2 = other.2

/-- From sessions that are alike, the steps have like answers and leave such sessions, or else a
statement is refused in one of the runs. -/
def StepsAgree (apart : Prop) (steps : Session → Taken × Session) : Prop :=
  ∀ session other, session.Alike apart other →
    TakenAlike (steps session).1 (steps other).1 ∧
        (steps session).2.Alike apart (steps other).2 ∨
      apart ∧ (AnyRefused (steps session).1.1 ∨ AnyRefused (steps other).1.1)

/-- Like answers and sessions, or else a statement is refused in one of the runs. -/
def AnswersAgree (apart : Prop) (answered other : Answer × Session) : Prop :=
  answered.1.Alike other.1 ∧ answered.2.Alike apart other.2 ∨
    apart ∧ (answered.1.Refused ∨ other.1.Refused)

/-- The last part of a call, after its callback. -/
def checked (store : Store) (terms : TermSet) (ids : TermIds) (answers : List Answer)
    (called : Session) : Answer × Session :=
  match (store.reconcile terms ids).run called.storage with
  | (outcome, last) =>
    let after := { called with storage := last }
    (.called outcome (some ids.ids) answers after.counts, after)

section Calls

variable {via : Via} {terms : TermSet} {steps : Session → Taken × Session}

theorem call_empty (empty : terms.isEmpty = true) (session : Session) :
    call via terms steps session =
      match steps { session with produced := [] } with
      | ((answers, ended), after) =>
        (.called (ended.map fun _ => Acquired.empty) (some []) answers after.counts, after) := by
  unfold call Store.acquireWith
  rw [if_pos empty]
  rcases hsteps : steps { session with produced := [] } with ⟨⟨answers, failure | ⟨⟩⟩, after⟩ <;>
    simp [Bind.bind, Action.andThen, callback, hsteps, Pure.pure, Except.map]

theorem call_interned (some_terms : ¬terms.isEmpty = true) (session : Session) :
    call via terms steps session =
      match ((session.store via).intern terms).run session.storage with
      | (.error failure, mid) =>
        let after := { session with storage := mid }
        (.called (.error failure) none [] after.counts, after)
      | (.ok interned, mid) =>
        match steps { session with storage := mid, produced := interned.ids.ids } with
        | ((answers, .error failure), after) =>
          (.called (.error failure) (some interned.ids.ids) answers after.counts, after)
        | ((answers, .ok ()), after) =>
          checked (session.store via) terms interned.ids answers after := by
  have parts := @Store.acquireWith_run _ _ (session.store via) _ some_terms (callback steps)
    (session, ⟨none, []⟩)
  unfold Action.run at parts
  unfold call
  rw [parts]
  simp only [HasStorage.storage, HasStorage.withStorage, Action.run, callback]
  rcases (session.store via).intern terms session.storage with ⟨failure | interned, mid⟩
  · rfl
  · simp only
    rcases steps { session with storage := mid, produced := interned.ids.ids } with
      ⟨⟨answers, failure | ⟨⟩⟩, after⟩
    · rfl
    · rfl

variable {session other : Session}

theorem checked_agree {store twin : Store} (alike : store.Alike apart twin) (terms : TermSet)
    (ids : TermIds) {answers others : List Answer} (like : List.Forall₂ Answer.Alike answers others)
    (related : session.Alike apart other) :
    AnswersAgree apart (checked store terms ids answers session)
      (checked twin terms ids others other) := by
  have outcomes := @Store.reconcile_agree apart store twin alike.codes alike.sizes session.storage
    terms ids
  have ran := outcomes.run_cases
  unfold AnswersAgree checked
  rw [← related.storage]
  rcases hrun : (store.reconcile terms ids).run session.storage with ⟨outcome, last⟩
  rcases hother : (twin.reconcile terms ids).run session.storage with ⟨result, moment⟩
  rw [hrun, hother] at ran
  rcases ran with same | ⟨apart, refused⟩
  · cases same
    have after := related.withStorage last
    have counts := after.counts
    simp only [counts]
    exact Or.inl ⟨.called like, after⟩
  · exact Or.inr ⟨apart, EitherRefused.called refused⟩

theorem call_agree (h : StepsAgree apart steps) (related : session.Alike apart other) :
    AnswersAgree apart (call via terms steps session) (call via terms steps other) := by
  have alike := related.store via
  unfold AnswersAgree
  by_cases empty : terms.isEmpty = true
  · rw [call_empty empty, call_empty empty]
    rcases h _ _ (related.withProduced []) with ⟨taken, after⟩ | ⟨apart, refused⟩
    · refine Or.inl ⟨?_, after⟩
      simp only [taken.ended, after.counts]
      exact .called taken.answers
    · exact Or.inr ⟨apart, refused.imp AnyRefused.called AnyRefused.called⟩
  have interned := (Store.intern_agree alike.codes alike.sizes
    (alike.readsAlike session.storage) terms).run_cases
  rw [call_interned empty, call_interned empty, ← related.storage]
  rcases hrun : ((session.store via).intern terms).run session.storage with ⟨outcome, mid⟩
  rcases hother : ((other.store via).intern terms).run session.storage with ⟨result, moment⟩
  rw [hrun, hother] at interned
  rcases interned with same | ⟨apart, refused⟩
  case inr =>
    refine Or.inr ⟨apart, refused.imp (fun h => ?_) fun h => ?_⟩
    all_goals
      cases h
      exact .called
  cases same
  have between := related.withStorage mid
  cases outcome with
  | error failure =>
    simp only [between.counts]
    exact Or.inl ⟨.called .nil, between⟩
  | ok interned =>
    have called := h _ _ (between.withProduced interned.ids.ids)
    simp only
    rcases hsteps : steps { session with storage := mid, produced := interned.ids.ids } with
      ⟨⟨answers, ended⟩, after⟩
    rcases htwin : steps { other with storage := mid, produced := interned.ids.ids } with
      ⟨⟨others, ending⟩, last⟩
    rw [hsteps, htwin] at called
    rcases called with ⟨⟨like, ends⟩, related⟩ | ⟨apart, refused⟩
    case inr =>
      -- What the callback has been told is told by the call, however the call ends.
      refine Or.inr ⟨apart, refused.imp (fun h => ?_) fun h => ?_⟩
      · cases ended <;> exact AnyRefused.called h
      · cases ending <;> exact AnyRefused.called h
    cases ends
    cases ended with
    | error failure =>
      have counts : after.counts = last.counts := related.counts
      simp only [counts]
      exact Or.inl ⟨.called like, related⟩
    | ok => exact checked_agree alike terms interned.ids like related

end Calls

/-- A step may end all of them with an error. -/
def StepAgrees (apart : Prop) (answered other : Except Failure Answer × Session) : Prop :=
  ResultsAlike Answer.Alike answered.1 other.1 ∧ answered.2.Alike apart other.2 ∨
    apart ∧ ((∃ answer, answered.1 = .ok answer ∧ answer.Refused) ∨
      ∃ answer, other.1 = .ok answer ∧ answer.Refused)

-- The recursion is on how callbacks are nested in one another.
mutual

theorem take_agree (steps : List Step) : StepsAgree apart (take steps) := by
  intro session other related
  cases steps with
  | nil => exact Or.inl ⟨⟨.nil, rfl⟩, related⟩
  | cons step steps =>
    have answered := takeOne_agree step related
    unfold take
    rcases hrun : takeOne step session with ⟨outcome, between⟩
    rcases hother : takeOne step other with ⟨result, moment⟩
    rw [hrun, hother] at answered
    rcases answered with ⟨results, after⟩ | ⟨apart, refused⟩
    · cases results with
      | error failure => exact Or.inl ⟨⟨.nil, rfl⟩, after⟩
      | ok like =>
        rcases take_agree steps between moment after with ⟨taken, last⟩ | ⟨apart, refused⟩
        · exact Or.inl ⟨⟨.cons like taken.answers, taken.ended⟩, last⟩
        · exact Or.inr ⟨apart, refused.imp AnyRefused.later AnyRefused.later⟩
    · refine Or.inr ⟨apart, refused.imp (fun h => ?_) fun h => ?_⟩
      all_goals
        obtain ⟨answer, rfl, deep⟩ := h
        exact ⟨answer, List.mem_cons_self, deep⟩

theorem takeOne_agree (step : Step) {session other : Session}
    (related : session.Alike apart other) :
    StepAgrees apart (takeOne step session) (takeOne step other) := by
  cases step with
  | request via request =>
    have served := serve_agree via request session other related
    unfold Action.AgreeFrom Action.run at served
    unfold takeOne
    rcases hrun : serve via request session with ⟨outcome, last⟩
    rcases hother : serve via request other with ⟨result, moment⟩
    rw [hrun, hother] at served
    rcases served with ⟨outcomes, after⟩ | ⟨apart, refused⟩
    · have counts : last.counts = moment.counts := after.counts
      refine Or.inl ⟨.ok ?_, after⟩
      rw [counts]
      exact .plain outcomes
    · refine Or.inr ⟨apart, refused.imp (fun h => ?_) fun h => ?_⟩
      all_goals
        cases h
        exact ⟨_, rfl, .plain⟩
  | acquireWith via terms steps =>
    rcases call_agree (take_agree steps) related with ⟨answers, after⟩ | ⟨apart, refused⟩
    · exact Or.inl ⟨.ok answers, after⟩
    · exact Or.inr ⟨apart, refused.imp (fun h => ⟨_, rfl, h⟩) fun h => ⟨_, rfl, h⟩⟩
  | refused failure =>
    unfold takeOne
    rw [related.counts]
    exact Or.inl ⟨.ok (.plain (.error failure)), related⟩
  | abort failure => exact Or.inl ⟨.error failure, related⟩

end

end Session

end Termbase
