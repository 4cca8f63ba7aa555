import Termbase.Proofs.Sessions

namespace Termbase

namespace Session

def opening (source : Source) (batch : BatchSize) : Action Storage (Store × Store) := do
  return (← Store.connect source batch, ← Store.connect .primary batch)

/-- The empty storage in which a session starts. -/
def startStorage (typeCodes : List (RowId × String)) : Storage :=
  let codes := typeCodes.foldl (fun (table : Table String) row => table.insertAt row.1 row.2)
    Table.empty
  ⟨{ Database.empty with typeCodes := codes }, Database.empty⟩

theorem start_eq (source : Source) (batch : BatchSize) (typeCodes : List (RowId × String)) :
    start source batch.rows typeCodes =
      match (opening source batch).run (startStorage typeCodes) with
      | (.ok (main, direct), storage) => .ok ⟨storage, main, direct, main, [], []⟩
      | (.error failure, _) => .error failure := by
  have sized : BatchSize.ofNat batch.rows = .ok batch := dif_pos batch.rows_pos
  unfold start
  rw [sized]
  rfl

section Starting

variable {apart : Prop} {first second : BatchSize} (sizes : first.Alike second ∨ apart)

include sizes

theorem connect_agree (source : Source) :
    Action.Agree False Eq (Store.Alike apart) (Store.connect source first)
      (Store.connect source second) :=
  .bind_same (fun _ _ same => same ▸ .of_run_eq rfl) fun _ => .pure ⟨rfl, rfl, sizes⟩

theorem opening_agree (source : Source) :
    Action.Agree False Eq
      (fun stores others => stores.1.Alike apart others.1 ∧ stores.2.Alike apart others.2)
      (opening source first) (opening source second) := by
  refine (connect_agree sizes source).bind fun main other alike => ?_
  refine (connect_agree sizes .primary).bind fun direct twin like => ?_
  exact .pure ⟨alike, like⟩

theorem start_alike (source : Source) (typeCodes : List (RowId × String)) :
    ResultsAlike (Alike apart) (start source first.rows typeCodes)
      (start source second.rows typeCodes) := by
  rw [start_eq, start_eq]
  obtain ⟨results, after⟩ := (opening_agree sizes source (startStorage typeCodes) _ rfl).agreeAt
  rcases hrun : (opening source first).run (startStorage typeCodes) with ⟨outcome, last⟩
  rcases hother : (opening source second).run (startStorage typeCodes) with ⟨result, moment⟩
  rw [hrun, hother] at results after
  cases results with
  | error failure => exact .error failure
  | ok alike => exact .ok ⟨after, alike.1, alike.2, alike.1, rfl, rfl⟩

end Starting

/-- Opens a session, with codes of their own for the custom store if there are any, and takes
steps in it. -/
def play (source : Source) (batch : BatchSize) (typeCodes : List (RowId × String))
    (custom : Option TypeCodes) (steps : List Step) : Except Failure (Taken × Session) := do
  let session ← start source batch.rows typeCodes
  return take steps ((custom.map session.withCodes).getD session)

/-- The answers to the steps of a session, and the session in the end, if it could be opened. -/
abbrev Played := Except Failure (Taken × Session)

/-- The same answers, but for the order in which the ids of records are listed, and the same rows,
links and last ids in both databases. -/
def PlayedAlike : Played → Played → Prop :=
  ResultsAlike fun played other =>
    TakenAlike played.1 other.1 ∧ played.2.storage = other.2.storage

/-- The session has been told of a refused statement. -/
def PlayRefused : Played → Prop
  | .ok ((answers, _), _) => AnyRefused answers
  | .error _ => False

/-- Sizes that are apart are told apart by a refused statement only. -/
theorem play_agree {apart : Prop} {first second : BatchSize}
    (sizes : first.Alike second ∨ apart) (source : Source) (typeCodes : List (RowId × String))
    (custom : Option TypeCodes) (steps : List Step) :
    PlayedAlike (play source first typeCodes custom steps)
        (play source second typeCodes custom steps) ∨
      apart ∧ (PlayRefused (play source first typeCodes custom steps) ∨
        PlayRefused (play source second typeCodes custom steps)) := by
  have started := start_alike sizes source typeCodes
  unfold play
  generalize start source first.rows typeCodes = opened at started ⊢
  generalize start source second.rows typeCodes = other at started ⊢
  cases started with
  | error failure => exact Or.inl (.error failure)
  | @ok session other related =>
    have alike : Alike apart ((custom.map session.withCodes).getD session)
        ((custom.map other.withCodes).getD other) := by
      cases custom with
      | none => exact related
      | some codes => exact related.withCodes codes
    refine (take_agree steps _ _ alike).imp_left fun ⟨taken, after⟩ => ?_
    exact .ok ⟨taken, after.storage⟩

section Asking

variable {batch first second : BatchSize} {level : Level} {records : List level.Record}

theorem act_outcome {α : Type} (outcome : α → Outcome) (action : Action Storage α)
    (session : Session) :
    ((act outcome action).run session).1 = (action.run session.storage).1.map outcome := by
  rw [act, Action.run_bind, Action.run_onStorage]
  simp only [HasStorage.storage]
  rcases action.run session.storage with ⟨failure | x, after⟩
  · rfl
  · rfl

/-- A request for the ids of records fails in this way just when a batch of them is too long. -/
theorem serve_acquireIds_tooDeep {via : Via} {forced : Option (ForcedIds level)}
    {primaryOnly : Bool} {session : Session} :
    ((serve via (.acquireIds level records forced primaryOnly)).run session).1 =
        .error .statementTooDeep ↔
      ¬(session.store via).batch.Admits level records.length := by
  let reader := if primaryOnly then .primary else (session.store via).source
  have served : (serve via (.acquireIds level records forced primaryOnly)).run session =
      (act (fun ids => .recordIds level ids records)
        (acquireIds (session.store via).batch reader level records forced)).run session := rfl
  rw [served, act_outcome, ← @acquireIds_tooDeep_iff _ reader _ _ forced session.storage]
  rcases ((acquireIds (session.store via).batch reader level records forced).run
    session.storage).1 with failure | ids
  · simp [Except.map]
  · simp [Except.map]

theorem start_primary (batch : BatchSize) :
    ∃ session, start .primary batch.rows [] = .ok session ∧ session.main.batch = batch := by
  rw [start_eq]
  exact ⟨_, rfl, rfl⟩

/-- A session that asks for the ids of records and does nothing else. -/
def asking (level : Level) (records : List level.Record) : List Step :=
  [.request .main (.acquireIds level records none false)]

theorem play_asking (batch : BatchSize) (records : List level.Record) :
    ∃ outcome counts after,
      play .primary batch [] none (asking level records) =
        .ok (([.plain outcome counts], .ok ()), after) ∧
      (outcome = .error .statementTooDeep ↔ ¬batch.Admits level records.length) := by
  obtain ⟨session, hstart, rfl⟩ := start_primary batch
  rcases hserve : serve .main (.acquireIds level records none false) session with ⟨outcome, after⟩
  have deep := @serve_acquireIds_tooDeep level records .main none false session
  unfold Action.run at deep
  rw [hserve] at deep
  refine ⟨outcome, after.counts, after, ?_, deep⟩
  unfold play asking
  rw [hstart]
  simp [Bind.bind, Except.bind, take, takeOne, hserve, Pure.pure, Except.pure]

/-- If both sessions are told the same, both sizes admit so many records or neither does. -/
theorem admits_of_playedAlike
    (alike : PlayedAlike (play .primary first [] none (asking level records))
      (play .primary second [] none (asking level records))) :
    first.Admits level records.length ↔ second.Admits level records.length := by
  obtain ⟨outcome, counts, after, hplay, deep⟩ := play_asking first records
  obtain ⟨result, others, last, hother, also⟩ := play_asking second records
  rw [hplay, hother] at alike
  refine not_iff_not.mp (deep.symm.trans (Iff.trans ?_ also))
  cases alike with
  | ok told =>
    cases told.1.answers with
    | cons like _ =>
      cases like with
      | plain results =>
        cases results with
        | ok _ => exact ⟨nofun, nofun⟩
        | error failure => exact Iff.rfl

theorem alike_of_playedAlike (alike : ∀ (level : Level) (records : List level.Record),
    PlayedAlike (play .primary first [] none (asking level records))
      (play .primary second [] none (asking level records))) : first.Alike second := by
  intro level
  -- One record more than a statement can match.
  obtain ⟨records, overlong⟩ : ∃ records : List level.Record, ¬level.Accepts records.length := by
    have : Nonempty level.Record := by
      cases level with
      | text => exact ⟨""⟩
      | textInLang => exact ⟨⟨0, ""⟩⟩
      | termInLang => exact ⟨⟨0, 0⟩⟩
    refine ⟨List.replicate (statementDepth + 1) this.some, ?_⟩
    unfold Level.Accepts
    rw [List.length_replicate]
    omega
  have admits := admits_of_playedAlike (alike level records)
  rw [BatchSize.admits_iff, BatchSize.admits_iff] at admits
  simpa only [overlong, or_false] using admits

end Asking

/-- How many parameters a statement may have. Each id that it looks for is one. -/
def parameterLimit : Nat := 32766

/-- Batch sizes for which the parameters of a statement suffice can be told apart by a refused
statement only: with any two of them, the steps of a session have the same answers, those of failing
steps and of callbacks included, but for the order in which the ids of records are listed, and they
leave both databases with the same rows, links and last ids, unless one of the sessions is told that
a statement is too deep. No session tells the sizes apart just when, at each level, statements for
full batches of both sizes are taken or those of neither are. -/
theorem batchSize_unobservable_iff {first second : BatchSize} (_ : first.rows ≤ parameterLimit)
    (_ : second.rows ≤ parameterLimit) :
    (∀ source typeCodes custom steps,
      PlayedAlike (play source first typeCodes custom steps)
          (play source second typeCodes custom steps) ∨
        PlayRefused (play source first typeCodes custom steps) ∨
        PlayRefused (play source second typeCodes custom steps)) ∧
    ((∀ source typeCodes custom steps,
        PlayedAlike (play source first typeCodes custom steps)
          (play source second typeCodes custom steps)) ↔
      ∀ level : Level, level.Accepts first.rows ↔ level.Accepts second.rows) := by
  refine ⟨fun source typeCodes custom steps => ?_, fun alike => ?_,
    fun alike source typeCodes custom steps => ?_⟩
  · exact (play_agree (em _) source typeCodes custom steps).imp_right fun refused => refused.2
  · exact alike_of_playedAlike fun level records => alike .primary [] none (asking level records)
  · exact (@play_agree False _ _ (Or.inl alike) source typeCodes custom steps).resolve_right
      fun refused => refused.1

/-- A label is stored and its text is asked for twice, behind a replica that lags. -/
def mixedSteps : List Step :=
  [.request .main (.storeTerms ⟨.item, 1⟩ (TermMap.empty.put .label "en" ["cat"])),
    .request .main (.acquireIds .text ["cat", "dog", "cat"] none false),
    .request .main (.sync Part.all), .request .direct (.deleteTerms ⟨.item, 1⟩),
    .request .main (.acquireIds .textInLang [⟨1, "en"⟩, ⟨7, "de"⟩] none true)]

theorem batchSize_unobservable_iff_mixed :
    PlayedAlike (play .replica ⟨1, by decide⟩ [] none mixedSteps)
      (play .replica ⟨500, by decide⟩ [] none mixedSteps) := by
  have accepted : ∀ level : Level, level.Accepts 1 ↔ level.Accepts 500 := by
    intro level
    cases level <;> decide
  exact (batchSize_unobservable_iff (by decide) (by decide)).2.mpr accepted .replica [] none
    mixedSteps

def thousandTexts : List String := (List.range 1000).map toString

/-- The texts get ids in batches of a hundred, but not all at once. -/
theorem batchSize_told_by_texts :
    ¬PlayedAlike (play .primary ⟨100, by decide⟩ [] none (asking .text thousandTexts))
      (play .primary ⟨1000, by decide⟩ [] none (asking .text thousandTexts)) := by
  intro alike
  have length : thousandTexts.length = 1000 := by simp [thousandTexts]
  have admits := admits_of_playedAlike alike
  rw [length] at admits
  revert admits
  decide

end Session

end Termbase
