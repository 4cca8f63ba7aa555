import Termbase.Proofs.Acquisition

namespace Termbase

/-- The rows that an entity's links lead to. -/
inductive Database.Uses (db : Database) (entity : EntityId) :
    (level : Level) → RowId × level.Record → Prop
  | termInLang {term : RowId × TermInLang} :
      (entity.number, term.1) ∈ (db.links entity.kind).pairs → term ∈ db.termInLang.rows →
      Uses db entity .termInLang term
  | textInLang {term : RowId × TermInLang} {below : RowId × TextInLang} :
      Uses db entity .termInLang term → below ∈ db.textInLang.rows →
      term.2.textInLangId = below.1 → Uses db entity .textInLang below
  | text {below : RowId × TextInLang} {text : RowId × String} :
      Uses db entity .textInLang below → text ∈ db.text.rows → below.2.textId = text.1 →
      Uses db entity .text text

/-- The entity links to the same ids, and what they lead to is as it was. -/
structure Database.Spares (entity : EntityId) (db after : Database) : Prop where
  links : ∀ id, (entity.number, id) ∈ (after.links entity.kind).pairs ↔
    (entity.number, id) ∈ (db.links entity.kind).pairs
  uses : ∀ level row, db.Uses entity level row → after.Uses entity level row

namespace Database

variable {db after : Database} {entity : EntityId}

theorem Uses.mem {level : Level} {row : RowId × level.Record} (h : db.Uses entity level row) :
    row ∈ (db.table level).rows := by
  cases h with
  | termInLang _ hrow => exact hrow
  | textInLang _ hrow => exact hrow
  | text _ hrow => exact hrow

namespace Spares

theorem refl (db : Database) : db.Spares entity db :=
  ⟨fun _ => Iff.rfl, fun _ _ h => h⟩

theorem trans {a b c : Database} (hab : a.Spares entity b) (hbc : b.Spares entity c) :
    a.Spares entity c :=
  ⟨fun id => (hbc.links id).trans (hab.links id),
    fun level row h => hbc.uses level row (hab.uses level row h)⟩

theorem of_rows (links : ∀ id, (entity.number, id) ∈ (after.links entity.kind).pairs ↔
      (entity.number, id) ∈ (db.links entity.kind).pairs)
    (rows : ∀ level, ∀ row ∈ (db.table level).rows, row ∈ (after.table level).rows) :
    db.Spares entity after := by
  refine ⟨links, fun level row h => ?_⟩
  induction h with
  | termInLang hlink hrow => exact .termInLang ((links _).mpr hlink) (rows .termInLang _ hrow)
  | textInLang _ hrow same ih => exact .textInLang ih (rows .textInLang _ hrow) same
  | text _ hrow same ih => exact .text ih (rows .text _ hrow) same

theorem clean (db : Database) (batch : BatchSize) (ids : List RowId) :
    db.Spares entity (db.clean batch ids).2 := by
  have links : ∀ id, (entity.number, id) ∈ ((db.clean batch ids).2.links entity.kind).pairs ↔
      (entity.number, id) ∈ (db.links entity.kind).pairs := by
    intro id
    rw [links_clean]
  refine ⟨links, fun level row h => ?_⟩
  -- By induction on the way down from the link: a row that stays keeps the one that it points at.
  induction h with
  | @termInLang term hlink hrow =>
    have linked : db.Linked term.1 := ⟨entity.kind, entity.number, hlink⟩
    have stays : term ∈ (db.clean batch ids).2.termInLang.rows :=
      mem_clean_termInLang.mpr ⟨hrow, fun gone => gone.2 linked⟩
    exact .termInLang ((links _).mpr hlink) stays
  | @textInLang term below _ hrow same ih =>
    have pointed : term ∈ (db.clean batch ids).2.termInLang.rows := ih.mem
    have stays := mem_clean_textInLang.mpr ⟨hrow, fun gone => gone.2 term pointed same⟩
    exact .textInLang ih stays same
  | @text below text _ hrow same ih =>
    have pointed : below ∈ (db.clean batch ids).2.textInLang.rows := ih.mem
    have stays := mem_clean_text.mpr ⟨hrow, fun gone => gone.2 below pointed same⟩
    exact .text ih stays same

theorem withLinks {other : EntityId} {links : Links} (different : other ≠ entity)
    (kept : ∀ id number, number ≠ other.number →
      ((number, id) ∈ links.pairs ↔ (number, id) ∈ (db.links other.kind).pairs)) :
    db.Spares entity (db.withLinks other.kind links) := by
  refine of_rows (fun id => ?_) fun level row hrow => ?_
  · by_cases same : entity.kind = other.kind
    · have hnumber : entity.number ≠ other.number := by
        intro he
        apply different
        cases entity
        cases other
        simp_all
      rw [same, links_withLinks]
      exact kept id entity.number hnumber
    · rw [links_withLinks_of_ne same]
  · rwa [table_withLinks]

end Spares

end Database

theorem Storage.Grows.spares {storage after : Storage} (h : storage.Grows after)
    (entity : EntityId) : storage.primary.Spares entity after.primary :=
  .of_rows (fun id => by rw [h.links]) h.rows

section Actions

variable {entity other : EntityId}

/-- The entity keeps its links and what they lead to. -/
def Storage.Spared (entity : EntityId) (storage after : Storage) : Prop :=
  storage.primary.Spares entity after.primary

theorem Storage.Spared.refl (storage : Storage) : storage.Spared entity storage :=
  Database.Spares.refl _

theorem Storage.Spared.trans (a b c : Storage) (hab : a.Spared entity b)
    (hbc : b.Spared entity c) : a.Spared entity c :=
  Database.Spares.trans hab hbc

theorem acquireIds_spared (batch : BatchSize) (source : Source) (level : Level)
    (records : List level.Record) (forced : Option (ForcedIds level)) :
    (acquireIds batch source level records forced).Within (Storage.Spared entity) :=
  fun storage => (acquireIds_grows batch source level records forced storage).spares entity

theorem clean_spared (batch : BatchSize) (ids : List RowId) :
    (clean batch ids).Within (Storage.Spared entity) :=
  clean_within Storage.Spared.refl (fun storage ids => .clean storage.primary batch ids) ids

theorem replaceLinks_spared (different : other ≠ entity) (ids : List RowId) :
    (replaceLinks other ids).Within (Storage.Spared entity) := by
  refine .transact Storage.Spared.refl fun storage result primary h => ?_
  cases (Prod.mk.inj (Except.ok.inj h)).2
  refine .withLinks different fun id number hnumber => ?_
  rw [Links.mem_replace]
  simp [hnumber]

theorem removeLinks_spared (different : other ≠ entity) :
    (removeLinks other).Within (Storage.Spared entity) := by
  refine .transact Storage.Spared.refl fun storage result primary h => ?_
  cases (Prod.mk.inj (Except.ok.inj h)).2
  refine .withLinks different fun id number hnumber => ?_
  rw [Links.mem_retain]
  simp [hnumber]

theorem registerTypes_spared (types : List TermType) :
    (registerTypes types).Within (Storage.Spared entity) := by
  refine registerTypes_within Storage.Spared.refl Storage.Spared.trans (fun storage codes => ?_)
    types
  refine .of_rows (fun id => ?_) fun level row hrow => ?_
  · cases entity.kind <;> exact Iff.rfl
  · cases level <;> exact hrow

end Actions

/-- No call, in callbacks neither, writes links of the entity. -/
inductive Operation.LeavesAlone (entity : EntityId) : Operation → Prop
  | acquire (store terms) : LeavesAlone entity (.acquire store terms)
  | acquireWith (store terms callback ending) :
      (∀ ids, ∀ operation ∈ callback ids, LeavesAlone entity operation) →
      LeavesAlone entity (.acquireWith store terms callback ending)
  | acquireIds (batch source level records forced) :
      LeavesAlone entity (.acquireIds batch source level records forced)
  | clean (batch ids) : LeavesAlone entity (.clean batch ids)
  | storeTerms (store) {other} (terms) : other ≠ entity →
      LeavesAlone entity (.storeTerms store other terms)
  | deleteTerms (store) {other} : other ≠ entity →
      LeavesAlone entity (.deleteTerms store other)
  | connect (source batch) : LeavesAlone entity (.connect source batch)
  | sync (parts) : LeavesAlone entity (.sync parts)
  | lag (age) : LeavesAlone entity (.lag age)
  | distort (replica) : LeavesAlone entity (.distort replica)

theorem runs_spared (entity : EntityId) : LedBy (Operation.LeavesAlone entity)
    (fun timeline after => timeline.storage.Spared entity after.storage) := by
  have refl : ∀ timeline : Timeline, timeline.storage.Spared entity timeline.storage :=
    fun _ => Storage.Spared.refl _
  refine .of_actions refl (fun _ _ _ => Storage.Spared.trans _ _ _) refl Storage.Spared.refl
    Storage.Spared.trans (fun _ _ h => h) ?_ (fun _ store _ _ => ?_)
    (fun batch source level records forced _ => ?_) ?_ ?_ clean_spared registerTypes_spared
    fun timeline _ => refl timeline
  · intro store terms callback ending alone ids operation hoperation
    cases alone with
    | acquireWith _ _ _ _ nested => exact nested ids operation hoperation
  · exact internFrom_within Storage.Spared.refl Storage.Spared.trans
      fun source level records forced _ => acquireIds_spared store.batch source level records forced
  · exact acquireIds_spared batch source level records forced
  · intro store other terms alone ids
    cases alone with
    | storeTerms _ _ different => exact replaceLinks_spared different ids
  · intro store other alone
    cases alone with
    | deleteTerms _ different => exact removeLinks_spared different

/-- Whatever else is done, whether it succeeds or fails, an entity keeps its links and all the rows
that they lead to, with the ids and columns that they have. Neither the primary nor its replica has
to be in order for that. -/
theorem linked_rows_stay {entity : EntityId} {operation : Operation}
    (alone : operation.LeavesAlone entity) (timeline : Timeline) :
    let before := timeline.storage.primary
    let after := (operation.perform.run timeline).2.storage.primary
    (∀ id, (entity.number, id) ∈ (after.links entity.kind).pairs ↔
      (entity.number, id) ∈ (before.links entity.kind).pairs) ∧
    ∀ level row, before.Uses entity level row → row ∈ (after.table level).rows := by
  have spared := (runs_spared entity).perform operation alone timeline
  exact ⟨spared.links, fun level row h => (spared.uses level row h).mem⟩

/-- An item and a property of the same number have the same label. -/
def sharedTimeline : Timeline :=
  ((performAll [.storeTerms laggingStore ⟨.item, 1⟩ oneLabel,
    .storeTerms laggingStore ⟨.property, 1⟩ oneLabel]).run
      (Timeline.start Table.empty Database.empty)).2

/-- The property uses the text of the label. -/
theorem shared_uses : sharedTimeline.storage.primary.Uses ⟨.property, 1⟩ .text (1, "cat") := by
  have term : sharedTimeline.storage.primary.Uses ⟨.property, 1⟩ .termInLang (1, ⟨1, 1⟩) :=
    .termInLang (by decide +kernel) (by decide +kernel)
  have below : sharedTimeline.storage.primary.Uses ⟨.property, 1⟩ .textInLang (1, ⟨1, "en"⟩) :=
    .textInLang term (by decide +kernel) rfl
  exact .text below (by decide +kernel) rfl

theorem linked_rows_stay_shared :
    ((Operation.deleteTerms laggingStore ⟨.item, 1⟩).perform.run
      sharedTimeline).2.storage.primary.itemLinks.pairs = [] ∧
    (1, "cat") ∈ ((Operation.deleteTerms laggingStore ⟨.item, 1⟩).perform.run
      sharedTimeline).2.storage.primary.text.rows := by
  have alone : (Operation.deleteTerms laggingStore ⟨.item, 1⟩).LeavesAlone ⟨.property, 1⟩ :=
    .deleteTerms laggingStore (by decide)
  exact ⟨by decide +kernel, (linked_rows_stay alone sharedTimeline).2 .text _ shared_uses⟩

end Termbase
