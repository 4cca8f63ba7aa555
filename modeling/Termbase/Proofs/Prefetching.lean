import Termbase.Proofs.Buffering

namespace Termbase

/-- The terms of entities that a source has found, or the failure of it. -/
abbrev Resolution := Except Failure (List (EntityId × TermSet))

/-- A call for prefetching, with the source and the state of it that the call finds. -/
structure PrefetchCall (σ : Type) where
  source : TermSource σ
  state : σ
  entities : List EntityId
  types : List TermType
  languages : List String

namespace PrefetchCall

variable {σ : Type}

def perform (call : PrefetchCall σ) (lookup : Lookup) : Except Failure Lookup :=
  ((lookup.prefetch call.source call.entities call.types call.languages).run call.state).1

/-- The lookup after the call, which leaves it as it was when it fails. -/
def renew (call : PrefetchCall σ) (lookup : Lookup) : Lookup :=
  match call.perform lookup with
  | .ok next => next
  | .error _ => lookup

def answer (call : PrefetchCall σ) (entities : List EntityId) : Resolution :=
  ((call.source.termsOf entities ⟨call.types, call.languages⟩).run call.state).1

def Asks (call : PrefetchCall σ) (entity : EntityId) (type : TermType) (language : String) : Prop :=
  entity ∈ call.entities ∧ type ∈ call.types ∧ language ∈ call.languages

def wantedOf (call : PrefetchCall σ) (lookup : Lookup) : List EntityId :=
  lookup.wanted call.entities call.types call.languages

/-- The ways that a call can go. -/
inductive Goes (call : PrefetchCall σ) (lookup : Lookup) : Except Failure Lookup → Prop
  | foreign {entity : EntityId} : entity ∈ call.entities → entity.kind ≠ lookup.kind →
      Goes call lookup (.error (.unsupportedEntityKind lookup.kind entity.kind))
  | idle : (∀ entity ∈ call.entities, entity.kind = lookup.kind) → call.wantedOf lookup = [] →
      Goes call lookup (.ok lookup)
  | failed {failure : Failure} : call.wantedOf lookup ≠ [] →
      call.answer (call.wantedOf lookup) = .error failure →
      Goes call lookup (.error (.store failure))
  | filled {resolved : List (EntityId × TermSet)} :
      (∀ entity ∈ call.entities, entity.kind = lookup.kind) →
      call.answer (call.wantedOf lookup) = .ok resolved →
      Goes call lookup (.ok
        (lookup.fill resolved call.types call.languages (call.wantedOf lookup)))

theorem perform_goes (call : PrefetchCall σ) (lookup : Lookup) :
    call.Goes lookup (call.perform lookup) := by
  unfold perform
  rcases lookup.forM_checkKind call.entities with ⟨own, checked⟩ | ⟨entity, mem, foreign, refused⟩
  · by_cases nothing : call.wantedOf lookup = []
    · rw [Lookup.prefetch_idle call.source checked nothing]
      exact .idle own nothing
    · rw [Lookup.prefetch_asking call.source checked nothing, Action.run_bind, Lookup.run_wrapped]
      rcases hrun : (call.source.termsOf (lookup.wanted call.entities call.types call.languages)
        ⟨call.types, call.languages⟩).run call.state with ⟨outcome, after⟩
      have answered : call.answer (call.wantedOf lookup) = outcome := congrArg Prod.fst hrun
      cases outcome with
      | error failure => exact .failed nothing answered
      | ok resolved => exact .filled own answered
  · rw [Lookup.prefetch_refused call.source refused]
    exact .foreign mem foreign

/-- The call goes the same way whatever the source is, and leaves the state of it as it is. -/
def SparesSource (lookup : Lookup) (call : PrefetchCall σ) : Prop :=
  ∃ outcome, (∀ next, outcome = .ok next → next = lookup) ∧
    ∀ (τ : Type) (source : TermSource τ),
      lookup.prefetch source call.entities call.types call.languages = Action.ofResult outcome

end PrefetchCall

/-- The lookup after calls, the latest first. -/
def Lookup.after {σ : Type} (kind : EntityKind) : List (PrefetchCall σ) → Lookup
  | [] => .ofKind kind
  | call :: earlier => call.renew (after kind earlier)

section History

variable {σ : Type} (kind : EntityKind)

def PrefetchCall.Succeeds (earlier : List (PrefetchCall σ)) (call : PrefetchCall σ) : Prop :=
  ∃ next, call.perform (.after kind earlier) = .ok next

/-- Some call has asked for the text and has succeeded. -/
def Fetched (history : List (PrefetchCall σ)) (entity : EntityId) (type : TermType)
    (language : String) : Prop :=
  ∃ call earlier, (call :: earlier) <:+ history ∧ call.Succeeds kind earlier ∧
    call.Asks entity type language

namespace PrefetchCall

/-- The call asks for a text of the entity that has not been fetched before. -/
def AsksAnew (earlier : List (PrefetchCall σ)) (call : PrefetchCall σ) (entity : EntityId) : Prop :=
  ∃ type language, call.Asks entity type language ∧ ¬Fetched kind earlier entity type language

theorem AsksAnew.mem {kind : EntityKind} {earlier : List (PrefetchCall σ)}
    {call : PrefetchCall σ} {entity : EntityId} (h : call.AsksAnew kind earlier entity) :
    entity ∈ call.entities := by
  obtain ⟨_, _, asks, _⟩ := h
  exact asks.1

/-- The call succeeds and asks for the text and, maybe with another text, for something new of its
entity. -/
structure Renews (earlier : List (PrefetchCall σ)) (call : PrefetchCall σ) (entity : EntityId)
    (type : TermType) (language : String) : Prop where
  succeeds : call.Succeeds kind earlier
  asks : call.Asks entity type language
  anew : call.AsksAnew kind earlier entity

/-- What the source answers when it is asked once for each entity of which the call asks for
something new. -/
def Answered (earlier : List (PrefetchCall σ)) (call : PrefetchCall σ) (outcome : Resolution) :
    Prop :=
  ∃ entities : List EntityId, entities.Pairwise (· < ·) ∧
    (∀ entity, entity ∈ entities ↔ call.AsksAnew kind earlier entity) ∧
    call.answer entities = outcome

/-- An entity is foreign, or the source fails when it is asked. -/
def Hindered (earlier : List (PrefetchCall σ)) (call : PrefetchCall σ) : Prop :=
  (∃ entity ∈ call.entities, entity.kind ≠ kind) ∨
    ∃ entity failure, call.AsksAnew kind earlier entity ∧
      call.Answered kind earlier (.error failure)

/-- The call is the latest one that renews the text. -/
structure RenewsLast (history : List (PrefetchCall σ)) (entity : EntityId) (type : TermType)
    (language : String) (earlier : List (PrefetchCall σ)) (call : PrefetchCall σ) : Prop where
  happened : (call :: earlier) <:+ history
  renews : call.Renews kind earlier entity type language
  last : ∀ other before, (other :: before) <:+ history →
    other.Renews kind before entity type language → (other :: before) <:+ (call :: earlier)

end PrefetchCall

variable {kind} {history earlier : List (PrefetchCall σ)} {call : PrefetchCall σ}
  {entity : EntityId} {type : TermType} {language : String}

theorem PrefetchCall.RenewsLast.cons {other : PrefetchCall σ}
    (h : call.RenewsLast kind history entity type language earlier)
    (kept : ¬other.Renews kind history entity type language) :
    call.RenewsLast kind (other :: history) entity type language earlier := by
  refine ⟨h.happened.trans (List.suffix_cons _ _), h.renews, fun later before happened renews => ?_⟩
  rcases List.suffix_cons_iff.mp happened with same | happened
  · cases same
    exact absurd renews kept
  · exact h.last later before happened renews

theorem fetched_cons : Fetched kind (call :: earlier) entity type language ↔
    call.Succeeds kind earlier ∧ call.Asks entity type language ∨
      Fetched kind earlier entity type language := by
  unfold Fetched
  constructor
  · rintro ⟨other, before, happened, fetched⟩
    rcases List.suffix_cons_iff.mp happened with same | happened
    · cases same
      exact Or.inl fetched
    · exact Or.inr ⟨other, before, happened, fetched⟩
  · rintro (fetched | ⟨other, before, happened, fetched⟩)
    · exact ⟨call, earlier, List.suffix_rfl, fetched⟩
    · exact ⟨other, before, happened.trans (List.suffix_cons _ _), fetched⟩

namespace Lookup

theorem after_cons : after kind (call :: earlier) = call.renew (after kind earlier) := rfl

/-- A call that fails changes nothing. -/
theorem after_failed (failed : ¬call.Succeeds kind earlier) :
    after kind (call :: earlier) = after kind earlier := by
  rw [after_cons, PrefetchCall.renew]
  split
  next next performed => exact absurd ⟨next, performed⟩ failed
  next => rfl

/-- A call that succeeds fills in what it wants. -/
theorem after_fills (h : call.Succeeds kind earlier) :
    (∀ entity ∈ call.entities, entity.kind = (after kind earlier).kind) ∧
    ∃ resolved, (call.wantedOf (after kind earlier) ≠ [] →
        call.answer (call.wantedOf (after kind earlier)) = .ok resolved) ∧
      Fills (fun e t l => e ∈ call.wantedOf (after kind earlier) ∧ t ∈ call.types ∧
        l ∈ call.languages) resolved (after kind earlier) (after kind (call :: earlier)) := by
  obtain ⟨next, performed⟩ := h
  have goes := call.perform_goes (after kind earlier)
  rw [after_cons, PrefetchCall.renew, performed]
  rw [performed] at goes
  cases goes with
  | idle own nothing =>
    refine ⟨own, [], fun wants => absurd nothing wants, Fills.refl.congr fun e t l => ?_⟩
    rw [nothing]
    simp
  | filled own answered => exact ⟨own, _, fun _ => answered, fill_fills _ _ _ _ _⟩

theorem kind_after (history : List (PrefetchCall σ)) : (after kind history).kind = kind := by
  induction history with
  | nil => rfl
  | cons call earlier ih =>
    by_cases h : call.Succeeds kind earlier
    · obtain ⟨_, _, _, fills⟩ := after_fills h
      exact fills.kind.trans ih
    · rw [after_failed h, ih]

/-- The lookup notes just what has been fetched. -/
theorem mem_fetched : (entity, type, language) ∈ (after kind history).fetched ↔
    Fetched kind history entity type language := by
  induction history with
  | nil =>
    refine ⟨fun h => absurd h List.not_mem_nil, ?_⟩
    rintro ⟨_, _, happened, _⟩
    exact nomatch List.suffix_nil.mp happened
  | cons call earlier ih =>
    rw [fetched_cons, ← ih]
    by_cases h : call.Succeeds kind earlier
    · obtain ⟨_, _, _, fills⟩ := after_fills h
      rw [fills.fetched, PrefetchCall.wantedOf, mem_wanted]
      constructor
      · exact Or.imp_left fun asked => ⟨h, asked.1.1, asked.2⟩
      · intro either
        by_cases before : (entity, type, language) ∈ (after kind earlier).fetched
        · exact Or.inr before
        · obtain ⟨_, here, typed, spoken⟩ := either.resolve_right before
          exact Or.inl ⟨⟨here, type, typed, language, spoken, before⟩, typed, spoken⟩
    · rw [after_failed h]
      exact (or_iff_right fun asked => h asked.1).symm

theorem mem_wantedOf : entity ∈ call.wantedOf (after kind earlier) ↔
    call.AsksAnew kind earlier entity := by
  unfold PrefetchCall.wantedOf PrefetchCall.AsksAnew
  simp only [mem_wanted, mem_fetched]
  constructor
  · rintro ⟨here, type, typed, language, spoken, fresh⟩
    exact ⟨type, language, ⟨here, typed, spoken⟩, fresh⟩
  · rintro ⟨type, language, ⟨here, typed, spoken⟩, fresh⟩
    exact ⟨here, type, typed, language, spoken, fresh⟩

theorem answered_iff {outcome : Resolution} :
    call.Answered kind earlier outcome ↔
      call.answer (call.wantedOf (after kind earlier)) = outcome := by
  have ordered : (call.wantedOf (after kind earlier)).Pairwise (· < ·) := wanted_pairwise _ _ _ _
  constructor
  · rintro ⟨entities, ascending, members, answered⟩
    have same : entities = call.wantedOf (after kind earlier) :=
      ascending.eq_of_mem_iff ordered fun entity => (members entity).trans mem_wantedOf.symm
    rw [← same, answered]
  · exact fun answered => ⟨_, ordered, fun _ => mem_wantedOf, answered⟩

/-- A call that renews the text makes it what the source has answered. -/
theorem textsIn_renewed (renews : call.Renews kind earlier entity type language) :
    ∃ resolved, call.Answered kind earlier (.ok resolved) ∧
      textsIn (after kind (call :: earlier)).buffer entity type language =
        textsIn resolved entity type language := by
  have wanted := mem_wantedOf.mpr renews.anew
  obtain ⟨_, resolved, answered, fills⟩ := after_fills renews.succeeds
  exact ⟨resolved, answered_iff.mpr (answered (List.ne_nil_of_mem wanted)),
    fills.filled entity type language ⟨wanted, renews.asks.2⟩⟩

/-- A call that does not renew the text leaves it as it was. -/
theorem textsIn_kept (other : ¬call.Renews kind earlier entity type language) :
    textsIn (after kind (call :: earlier)).buffer entity type language =
      textsIn (after kind earlier).buffer entity type language := by
  by_cases succeeds : call.Succeeds kind earlier
  · obtain ⟨_, _, _, fills⟩ := after_fills succeeds
    refine fills.kept entity type language fun ⟨wanted, asked⟩ => other ?_
    have anew := mem_wantedOf.mp wanted
    exact ⟨succeeds, ⟨anew.mem, asked⟩, anew⟩
  · rw [after_failed succeeds]

/-- A fetched text is the one that the latest call to renew it was answered. -/
theorem textsIn_after (fetched : Fetched kind history entity type language) :
    ∃ (call : PrefetchCall σ) (earlier : List (PrefetchCall σ)) (resolved : _),
      call.RenewsLast kind history entity type language earlier ∧
      call.Answered kind earlier (.ok resolved) ∧
      textsIn (after kind history).buffer entity type language =
        textsIn resolved entity type language := by
  induction history with
  | nil =>
    obtain ⟨_, _, happened, _⟩ := fetched
    exact nomatch List.suffix_nil.mp happened
  | cons call earlier ih =>
    by_cases renews : call.Renews kind earlier entity type language
    · obtain ⟨resolved, answered, texts⟩ := textsIn_renewed renews
      exact ⟨call, earlier, resolved, ⟨List.suffix_rfl, renews, fun _ _ happened _ => happened⟩,
        answered, texts⟩
    · -- The first call to fetch a text renews it, so this one was not the first.
      have before : Fetched kind earlier entity type language := by
        rcases fetched_cons.mp fetched with ⟨succeeds, asks⟩ | before
        · by_contra fresh
          exact renews ⟨succeeds, asks, type, language, asks, fresh⟩
        · exact before
      obtain ⟨latest, past, resolved, last, answered, texts⟩ := ih before
      exact ⟨latest, past, resolved, last.cons renews, answered, (textsIn_kept renews).trans texts⟩

theorem read_notPrefetched (own : entity.kind = kind) :
    (after kind history).read entity type language = .ok .notPrefetched ↔
      ¬Fetched kind history entity type language := by
  rw [read_eq (own.trans (kind_after history).symm), ← mem_fetched]
  split
  next fetched =>
    refine iff_of_false (fun h => ?_) (not_not_intro fetched)
    cases htexts : textsIn (after kind history).buffer entity type language <;>
      rw [htexts] at h <;> cases h
  next fresh => exact iff_of_true rfl fresh

theorem readSynonyms_none (own : entity.kind = kind) :
    (after kind history).readSynonyms entity language = .ok none ↔
      ¬Fetched kind history entity .synonym language := by
  rw [readSynonyms_eq (own.trans (kind_after history).symm), ← mem_fetched]
  split
  next fetched => exact iff_of_false nofun (not_not_intro fetched)
  next fresh => exact iff_of_true rfl fresh

end Lookup

namespace PrefetchCall

theorem fails_iff : ¬call.Succeeds kind earlier ↔ call.Hindered kind earlier := by
  constructor
  · intro fails
    have goes := call.perform_goes (.after kind earlier)
    cases houtcome : call.perform (.after kind earlier) with
    | ok next => exact absurd ⟨next, houtcome⟩ fails
    | error failure =>
      rw [houtcome] at goes
      cases goes with
      | foreign here foreign =>
        rw [Lookup.kind_after] at foreign
        exact Or.inl ⟨_, here, foreign⟩
      | failed wants failed =>
        obtain ⟨entity, wanted⟩ := List.exists_mem_of_ne_nil _ wants
        exact Or.inr ⟨entity, _, Lookup.mem_wantedOf.mp wanted, Lookup.answered_iff.mpr failed⟩
  · intro causes succeeds
    obtain ⟨own, resolved, answered, _⟩ := Lookup.after_fills succeeds
    rcases causes with ⟨entity, here, foreign⟩ | ⟨entity, failure, anew, failed⟩
    · exact foreign ((own entity here).trans (Lookup.kind_after earlier))
    · have wanted := Lookup.mem_wantedOf.mpr anew
      have same := (answered (List.ne_nil_of_mem wanted)).symm.trans (Lookup.answered_iff.mp failed)
      cases same

theorem sparesSource (known : ∀ entity type language, call.Asks entity type language →
    Fetched kind earlier entity type language) : call.SparesSource (.after kind earlier) := by
  have nothing : call.wantedOf (.after kind earlier) = [] := by
    refine List.eq_nil_iff_forall_not_mem.mpr fun entity wanted => ?_
    obtain ⟨type, language, asks, fresh⟩ := Lookup.mem_wantedOf.mp wanted
    exact fresh (known entity type language asks)
  rcases (Lookup.after kind earlier).forM_checkKind call.entities with
    ⟨_, checked⟩ | ⟨entity, _, _, refused⟩
  · exact ⟨.ok _, fun next same => (Except.ok.inj same).symm,
      fun _ source => Lookup.prefetch_idle source checked nothing⟩
  · exact ⟨.error _, fun _ => nofun, fun _ source => Lookup.prefetch_refused source refused⟩

end PrefetchCall

variable (kind)

/-- What the lookup says about a text after calls. -/
structure Lookup.Tells (history : List (PrefetchCall σ)) (entity : EntityId) (type : TermType)
    (language : String) : Prop where
  notPrefetched : (after kind history).read entity type language = .ok .notPrefetched ↔
    ¬Fetched kind history entity type language
  noSynonyms : type = .synonym → ((after kind history).readSynonyms entity language = .ok none ↔
    ¬Fetched kind history entity type language)
  texts : Fetched kind history entity type language →
    ∃ (call : PrefetchCall σ) (earlier : List (PrefetchCall σ)) (resolved : _),
      call.RenewsLast kind history entity type language earlier ∧
      call.Answered kind earlier (.ok resolved) ∧
      (after kind history).read entity type language =
        .ok (.ofTexts (textsIn resolved entity type language)) ∧
      (type = .synonym → (after kind history).readSynonyms entity language =
        .ok (some (textsIn resolved entity type language)))

/-- After any calls, the lookup tells whether a text has been fetched, and a fetched text is the
one that the latest call to renew it was answered. A call fails for a foreign entity or with its
source, and then changes nothing; one that asks for nothing new does not need the source. -/
theorem lookup_tells_latest (history : List (PrefetchCall σ)) :
    (∀ entity type language, entity.kind = kind →
      Lookup.Tells kind history entity type language) ∧
    ∀ call : PrefetchCall σ,
      (¬call.Succeeds kind history ↔ call.Hindered kind history) ∧
      (¬call.Succeeds kind history → Lookup.after kind (call :: history) = .after kind history) ∧
      ((∀ entity type language, call.Asks entity type language →
        Fetched kind history entity type language) → call.SparesSource (.after kind history)) := by
  refine ⟨fun entity type language own => ⟨Lookup.read_notPrefetched own, ?_, fun fetched => ?_⟩,
    fun call => ⟨PrefetchCall.fails_iff, Lookup.after_failed, PrefetchCall.sparesSource⟩⟩
  · rintro rfl
    exact Lookup.readSynonyms_none own
  · obtain ⟨call, earlier, resolved, renewed, answered, texts⟩ := Lookup.textsIn_after fetched
    have noted := Lookup.mem_fetched.mpr fetched
    have kinds := own.trans (Lookup.kind_after history).symm
    refine ⟨call, earlier, resolved, renewed, answered, ?_, ?_⟩
    · rw [Lookup.read_eq kinds, if_pos noted, texts]
    · rintro rfl
      rw [Lookup.readSynonyms_eq kinds, if_pos noted, texts]

end History

/-- A source whose answer is its state. -/
def answering : TermSource Resolution :=
  ⟨fun _ => return [], fun _ _ => do Action.ofResult (← Action.read id)⟩

def englishCall (answer : Resolution) (numbers : List UInt32) (types : List TermType) :
    PrefetchCall Resolution :=
  ⟨answering, answer, numbers.map fun number => ⟨.item, number⟩, types, ["en"]⟩

def catCall : PrefetchCall Resolution :=
  englishCall (.ok [(⟨.item, 1⟩, TermMap.empty.put .label "en" ["cat"])]) [1] [.label]

/-- A call that fails comes between one for a label and one for it and a description. -/
def labelCalls : List (PrefetchCall Resolution) :=
  [englishCall (.ok [(⟨.item, 1⟩, TermMap.empty.put .label "en" ["tabby"])]) [1]
      [.label, .description],
    englishCall (.error .storageFull) [1, 2] [.label, .description], catCall]

/-- The later of the two calls counts, the failed one has fetched nothing, and the first one does
not need its source when it is made again. -/
theorem lookup_tells_latest_tabby :
    (∃ (call : PrefetchCall Resolution) (earlier : List (PrefetchCall Resolution)) (resolved : _),
      call.RenewsLast .item labelCalls ⟨.item, 1⟩ .label "en" earlier ∧
      call.Answered .item earlier (.ok resolved) ∧
      Reading.ofTexts (textsIn resolved ⟨.item, 1⟩ .label "en") = .found "tabby") ∧
    ¬Fetched .item labelCalls ⟨.item, 2⟩ .label "en" ∧
    catCall.SparesSource (.after .item labelCalls) := by
  obtain ⟨tells, follows⟩ := lookup_tells_latest .item labelCalls
  have first := tells ⟨.item, 1⟩ .label "en" rfl
  have second := tells ⟨.item, 2⟩ .label "en" rfl
  have found : (Lookup.after .item labelCalls).read ⟨.item, 1⟩ .label "en" =
      .ok (.found "tabby") := by decide +kernel
  have missing : (Lookup.after .item labelCalls).read ⟨.item, 2⟩ .label "en" =
      .ok .notPrefetched := by decide +kernel
  have fetched : Fetched .item labelCalls ⟨.item, 1⟩ .label "en" := by
    by_contra fresh
    have unread := found.symm.trans (first.notPrefetched.mpr fresh)
    cases unread
  obtain ⟨call, earlier, resolved, renewed, answered, texts, _⟩ := first.texts fetched
  refine ⟨⟨call, earlier, resolved, renewed, answered, ?_⟩, second.notPrefetched.mp missing,
    (follows catCall).2.2 fun entity type language asks => ?_⟩
  · exact Except.ok.inj (texts.symm.trans found)
  · obtain ⟨here, typed, spoken⟩ := asks
    cases List.mem_singleton.mp here
    cases List.mem_singleton.mp typed
    cases List.mem_singleton.mp spoken
    exact fetched

end Termbase
