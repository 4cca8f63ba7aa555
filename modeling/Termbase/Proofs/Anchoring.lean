import Termbase.Proofs.Refining
import Termbase.Proofs.Sparing
import Termbase.Proofs.Yielding

namespace Termbase

/-- All the terms that the entity links to are there. -/
def Database.Anchored (db : Database) (entity : EntityId) : Prop :=
  ∀ id, (entity.number, id) ∈ (db.links entity.kind).pairs → id ∈ db.termInLang.ids

section Anchored

variable {entity : EntityId} {storage after : Storage} {store : Store} {terms : TermSet}

theorem Database.Spares.anchored {db later : Database} (h : db.Spares entity later)
    (anchored : db.Anchored entity) : later.Anchored entity := by
  intro id hlink
  have hbefore := (h.links id).mp hlink
  obtain ⟨record, hrow⟩ := Table.mem_ids.mp (anchored id hbefore)
  have stays := (h.uses .termInLang _ (.termInLang hbefore hrow)).mem
  exact Table.mem_ids.mpr ⟨record, stays⟩

theorem Storage.Grows.anchored (h : storage.Grows after)
    (anchored : storage.primary.Anchored entity) :
    after.primary.Anchored entity :=
  (h.spares entity).anchored anchored

theorem Database.anchored_relinked {db later : Database} {ids : List RowId}
    (links : later.links entity.kind = (db.relinked entity ids).links entity.kind)
    (present : ∀ id ∈ ids, id ∈ later.termInLang.ids) : later.Anchored entity := by
  intro id hlink
  rw [links, mem_relinked, if_pos rfl] at hlink
  exact present id hlink

/-- The links of the entity are written, and then the storage fails for texts that have lost their
ids. -/
def Store.Strands (store : Store) (entity : EntityId) (terms : TermSet) (storage : Storage) :
    Prop :=
  match (store.intern terms).run storage with
  | (.ok interned, mid) =>
    StorageFails ((store.reconcile terms interned.ids).run
      { mid with primary := mid.primary.relinked entity interned.ids.ids }).1
  | (.error _, _) => False

instance (store : Store) (entity : EntityId) (terms : TermSet) (storage : Storage) :
    Decidable (store.Strands entity terms storage) := by
  unfold Store.Strands
  split <;> infer_instance

/-- What comes of interning terms that an entity is made to link to. -/
theorem Store.acquireWith_relinking {outcome : Except Failure Acquired}
    (run : (store.acquireWith terms (replaceLinks entity)).run storage = (outcome, after)) :
    (∃ failure, outcome = .error failure ∧
      (store.Strands entity terms storage ∨ storage.Grows after)) ∨
    ∃ acquired, outcome = .ok acquired ∧
      (∀ id ∈ acquired.ids.ids, id ∈ after.primary.termInLang.ids) ∧
      (acquired.mismatch = none → after.primary.Anchored entity) := by
  by_cases hempty : terms.isEmpty = true
  · unfold acquireWith at run
    rw [if_pos hempty] at run
    obtain ⟨hacquired, hafter⟩ := Prod.mk.inj run
    refine Or.inr ⟨_, hacquired.symm, nofun, fun _ => ?_⟩
    rw [← hafter]
    exact Database.anchored_relinked rfl nofun
  · rcases acquireWith_cases hempty run with ⟨failure, mid, hmid, he, rfl⟩ | ⟨interned, mid, hmid, h⟩
    · exact Or.inl ⟨failure, he, Or.inr (intern_yields.error hmid).1⟩
    · have hmid : (store.intern terms).run storage = (.ok interned, mid) := hmid
      obtain ⟨_, cover, idOf, hids, coherent⟩ := intern_yields.ok hmid
      rcases h with ⟨_, hcall, _⟩ | ⟨called, last, hcall, hlast, rfl⟩
      · simp [replaceLinks_run] at hcall
      · obtain ⟨_, rfl⟩ := Prod.mk.inj hcall
        have checked := hlast
        rw [hids] at checked
        cases outcome with
        | error failure =>
          -- The codes cover the terms by now, so only the storage can have failed.
          obtain ⟨_, fails⟩ := (reconcile_yields cover coherent).error checked
          have ended : ((store.reconcile terms interned.ids).run
              { mid with primary := mid.primary.relinked entity interned.ids.ids }).1 =
              .error failure := congrArg Prod.fst hlast
          refine Or.inl ⟨failure, rfl, Or.inl ?_⟩
          unfold Strands
          simp only [hmid, ended]
          exact fails
        | ok acquired =>
          obtain ⟨grows, present, restored⟩ := (reconcile_yields cover coherent).ok checked
          refine Or.inr ⟨acquired, rfl, present, fun hnone => ?_⟩
          exact Database.anchored_relinked (grows.links entity.kind) (restored hnone)

/-- A store call that ends well anchors the entity, and one that fails leaves it as it is unless it
strands the links. -/
theorem Store.storeTerms_anchored (steady : ¬store.Strands entity terms storage)
    (anchored : storage.primary.Anchored entity) :
    ((store.storeTerms entity terms).run storage).2.primary.Anchored entity := by
  have cleaned : ∀ (acquired : Acquired) (ids : List RowId) (called : Storage),
      called.primary.Anchored entity → ((do
        let _ ← clean store.batch ids
        return acquired : Action Storage Acquired).run called).2.primary.Anchored entity := by
    intro acquired ids called hcalled
    have spared : (do
        let _ ← clean store.batch ids
        return acquired : Action Storage Acquired).Within (Storage.Spared entity) :=
      .bind Storage.Spared.trans (clean_spared store.batch ids) fun _ => .pure Storage.Spared.refl _
    exact (spared called).anchored hcalled
  rcases hrun : (store.acquireWith terms (replaceLinks entity)).run storage with ⟨outcome, between⟩
  unfold storeTerms linkedIds
  rw [Action.run_bind, Action.run_query]
  simp only
  rw [Action.run_bind, hrun]
  rcases acquireWith_relinking hrun with ⟨failure, rfl, hcase⟩ | ⟨acquired, rfl, present, hnone⟩
  · rcases hcase with strands | grows
    · exact absurd strands steady
    · exact grows.anchored anchored
  · simp only
    split
    next =>
      -- Ids have been replaced, and the links are written a second time.
      rw [Action.run_bind, replaceLinks_run]
      refine cleaned _ _ _ (Database.anchored_relinked rfl fun id hid => ?_)
      have kept : (between.primary.relinked entity acquired.ids.ids).termInLang =
        between.primary.termInLang := Database.table_withLinks _ _ _ .termInLang
      exact kept ▸ present id hid
    next hsome => exact cleaned _ _ _ (hnone (by simpa using hsome))

theorem Store.deleteTerms_anchored (store : Store) (entity : EntityId) (storage : Storage) :
    ((store.deleteTerms entity).run storage).2.primary.Anchored entity := by
  have removed : ((removeLinks entity).run storage).2.primary.Anchored entity := by
    intro id hlink
    rw [show ((removeLinks entity).run storage).2.primary = storage.primary.withLinks entity.kind
      ((storage.primary.links entity.kind).retain entity.number []) from rfl,
      Database.links_withLinks, Links.mem_retain] at hlink
    simp at hlink
  exact (clean_spared store.batch _ _).anchored removed

end Anchored

/-- The callback of an interning is called with these ids at this moment. -/
inductive Store.Calls (store : Store) (terms : TermSet) (timeline : Timeline) :
    List RowId → Timeline → Prop
  | empty : terms.isEmpty = true → Calls store terms timeline [] timeline
  | interned {interned mid} : ¬terms.isEmpty = true →
      (store.intern terms).run timeline.storage = (.ok interned, mid) →
      Calls store terms timeline interned.ids.ids { timeline with storage := mid }

mutual

/-- Some store call for the entity strands its links. -/
inductive Operation.Strands (entity : EntityId) : Operation → Timeline → Prop
  | storeTerms {store terms timeline} : store.Strands entity terms timeline.storage →
      Operation.Strands entity (.storeTerms store entity terms) timeline
  | acquireWith {store terms callback ending timeline ids called} :
      store.Calls terms timeline ids called → AnyStrands entity (callback ids) called.noted →
      Operation.Strands entity (.acquireWith store terms callback ending) timeline

inductive AnyStrands (entity : EntityId) : List Operation → Timeline → Prop
  | first {operation operations timeline} : operation.Strands entity timeline →
      AnyStrands entity (operation :: operations) timeline
  | later {operation operations timeline} :
      AnyStrands entity operations (operation.perform.run timeline).2 →
      AnyStrands entity (operation :: operations) timeline

end

def Timeline.Anchored (timeline : Timeline) (entity : EntityId) : Prop :=
  ∀ db ∈ timeline.storage.primary :: timeline.past, db.Anchored entity

namespace Timeline.Anchored

variable {timeline : Timeline} {entity : EntityId}

theorem start (codes : Table String) (replica : Database) :
    (Timeline.start codes replica).Anchored entity := by
  intro db hdb id hlink
  have hdb : db = { Database.empty with typeCodes := codes } := by
    simpa [Timeline.start] using hdb
  subst hdb
  cases hkind : entity.kind <;> rw [hkind] at hlink <;> exact absurd hlink List.not_mem_nil

theorem noted (h : timeline.Anchored entity) : timeline.noted.Anchored entity := by
  intro db hdb
  rcases List.mem_cons.mp hdb with rfl | hdb
  · exact h _ List.mem_cons_self
  · exact h db hdb

theorem stored (h : timeline.Anchored entity) {after : Storage}
    (anchored : after.primary.Anchored entity) :
    ({ timeline with storage := after } : Timeline).Anchored entity := by
  intro db hdb
  rcases List.mem_cons.mp hdb with rfl | hdb
  · exact anchored
  · exact h db (List.mem_cons_of_mem _ hdb)

end Timeline.Anchored

/-- An operation without a callback notes at most the state that it leaves. -/
theorem Operation.perform_past (operation : Operation)
    (plain : ∀ store terms callback ending, operation ≠ .acquireWith store terms callback ending)
    (timeline : Timeline) :
    ∀ db ∈ (operation.perform.run timeline).2.past,
      db = (operation.perform.run timeline).2.storage.primary ∨ db ∈ timeline.past := by
  intro db hdb
  cases operation with
  | acquireWith store terms callback ending => exact absurd rfl (plain _ _ _ _)
  | sync => exact Or.inr hdb
  | lag => exact Or.inr hdb
  | distort => exact Or.inr hdb
  | _ => exact List.mem_cons.mp hdb

theorem Timeline.Anchored.performed {timeline : Timeline} {entity : EntityId}
    (h : timeline.Anchored entity) {operation : Operation}
    (plain : ∀ store terms callback ending, operation ≠ .acquireWith store terms callback ending)
    (anchored : (operation.perform.run timeline).2.storage.primary.Anchored entity) :
    (operation.perform.run timeline).2.Anchored entity := by
  intro db hdb
  rcases List.mem_cons.mp hdb with rfl | hdb
  · exact anchored
  · rcases operation.perform_past plain timeline db hdb with rfl | hdb
    · exact anchored
    · exact h db (List.mem_cons_of_mem _ hdb)

theorem Timeline.Anchored.spared {timeline : Timeline} {entity : EntityId}
    (h : timeline.Anchored entity) {operation : Operation}
    (plain : ∀ store terms callback ending, operation ≠ .acquireWith store terms callback ending)
    (alone : operation.LeavesAlone entity) : (operation.perform.run timeline).2.Anchored entity :=
  h.performed plain <|
    ((runs_spared entity).perform operation alone timeline).anchored (h _ List.mem_cons_self)

theorem Timeline.Anchored.acquiredWith {timeline : Timeline} {entity : EntityId} {store : Store}
    {terms : TermSet} {callback : List RowId → Action Timeline Unit}
    (anchored : timeline.Anchored entity)
    (called : ∀ ids moment, store.Calls terms timeline ids moment → moment.Anchored entity →
      ((callback ids).run moment).2.Anchored entity) :
    ((store.acquireWith terms callback).run timeline).2.Anchored entity := by
  have latest := anchored _ List.mem_cons_self
  rcases hrun : (store.acquireWith terms callback).run timeline with ⟨outcome, after⟩
  by_cases hempty : terms.isEmpty = true
  · have nested := called [] timeline (.empty hempty) anchored
    unfold Store.acquireWith at hrun
    rw [if_pos hempty] at hrun
    rcases Action.bind_cases hrun with ⟨_, hcall, _⟩ | ⟨_, between, hcall, hpure⟩
    · rwa [hcall] at nested
    · rw [hcall] at nested
      exact (Prod.mk.inj hpure).2 ▸ nested
  · rcases Store.acquireWith_cases hempty hrun with ⟨_, mid, hmid, _, rfl⟩ |
      ⟨interned, mid, hmid, h⟩
    · exact anchored.stored ((Store.intern_yields.error hmid).1.anchored latest)
    · have between := anchored.stored ((Store.intern_yields.ok hmid).1.anchored latest)
      have nested := called _ _ (.interned hempty hmid) between
      -- Whether the callback succeeds or fails, what it has noted stays in the past.
      rcases h with ⟨_, hcall, _⟩ | ⟨moment, last, hcall, hlast, rfl⟩
      · have hafter : ((callback interned.ids.ids).run
          { timeline with storage := mid }).2 = after := congrArg Prod.snd hcall
        rwa [hafter] at nested
      · have hmoment : ((callback interned.ids.ids).run
          { timeline with storage := mid }).2 = moment := congrArg Prod.snd hcall
        rw [hmoment] at nested
        have grows := store.reconcile_within Storage.Grows.refl Storage.Grows.trans
          (fun source restoration => internFrom_grows source terms restoration)
          interned.ids moment.storage
        have hlast : ((store.reconcile terms interned.ids).run moment.storage).2 = last :=
          congrArg Prod.snd hlast
        rw [hlast] at grows
        exact nested.stored (grows.anchored (nested _ List.mem_cons_self))

-- The recursion is on how callbacks are nested in one another.
mutual

theorem Operation.perform_anchored {entity : EntityId} (operation : Operation)
    {timeline : Timeline} (steady : ¬operation.Strands entity timeline)
    (anchored : timeline.Anchored entity) :
    (operation.perform.run timeline).2.Anchored entity := by
  have latest := anchored _ List.mem_cons_self
  cases operation with
  | acquireWith store terms callback ending =>
    have called : ∀ ids moment, store.Calls terms timeline ids moment → moment.Anchored entity →
        (((doing callback ending ids).run moment).2).Anchored entity :=
      fun ids moment calls h => performAll_anchored (callback ids)
        (fun strands => steady (.acquireWith calls strands)) h.noted
    rw [perform_acquireWith]
    exact (anchored.acquiredWith called).noted
  | storeTerms store other terms =>
    by_cases same : other = entity
    · subst same
      exact anchored.performed (fun _ _ _ _ => nofun)
        (store.storeTerms_anchored (fun strands => steady (.storeTerms strands)) latest)
    · exact anchored.spared (fun _ _ _ _ => nofun) (.storeTerms store terms same)
  | deleteTerms store other =>
    by_cases same : other = entity
    · subst same
      exact anchored.performed (fun _ _ _ _ => nofun)
        (store.deleteTerms_anchored other timeline.storage)
    · exact anchored.spared (fun _ _ _ _ => nofun) (.deleteTerms store same)
  | _ => exact anchored.spared (fun _ _ _ _ => nofun) (by constructor)

theorem performAll_anchored {entity : EntityId} (operations : List Operation)
    {timeline : Timeline} (steady : ¬AnyStrands entity operations timeline)
    (anchored : timeline.Anchored entity) :
    ((performAll operations).run timeline).2.Anchored entity := by
  cases operations with
  | nil => exact anchored
  | cons operation operations =>
    have first := operation.perform_anchored (fun h => steady (.first h)) anchored
    exact performAll_anchored operations (fun h => steady (.later h)) first

end

/-- Whatever is done, whether it succeeds or fails, and whatever the replica holds meanwhile: at no
moment does an entity link to a term that is not there, unless the storage has failed a call that
stores terms of that entity after it has written the links. -/
theorem links_never_dangle {entity : EntityId} {operations : List Operation} {codes : Table String}
    {replica : Database}
    (steady : ¬AnyStrands entity operations (Timeline.start codes replica)) :
    let timeline := ((performAll operations).run (Timeline.start codes replica)).2
    ∀ db ∈ timeline.storage.primary :: timeline.past,
      ∀ id, (entity.number, id) ∈ (db.links entity.kind).pairs → id ∈ db.termInLang.ids :=
  performAll_anchored operations steady (.start codes replica)

/-- A stale label is stored again. -/
def relinkingHistory : List Operation :=
  [.storeTerms laggingStore ⟨.item, 1⟩ oneLabel, .sync Part.all,
    .deleteTerms laggingStore ⟨.item, 1⟩, .storeTerms laggingStore ⟨.item, 1⟩ oneLabel]

def relinkedTimeline : Timeline :=
  ((performAll relinkingHistory).run (Timeline.start Table.empty Database.empty)).2

theorem links_never_dangle_relinked :
    (1, 1) ∈ relinkedTimeline.storage.primary.itemLinks.pairs ∧
      1 ∈ relinkedTimeline.storage.primary.termInLang.ids := by
  have steady : ¬AnyStrands ⟨.item, 1⟩ relinkingHistory
      (Timeline.start Table.empty Database.empty) := by
    rintro (⟨⟨h⟩⟩ | ⟨⟨⟨⟩⟩ | ⟨⟨⟨⟩⟩ | ⟨⟨⟨h⟩⟩ | ⟨⟨⟩⟩⟩⟩⟩)
    · exact absurd h (by decide +kernel)
    · exact absurd h (by decide +kernel)
  have linked : (1, 1) ∈ relinkedTimeline.storage.primary.itemLinks.pairs := by decide +kernel
  exact ⟨linked, links_never_dangle steady _ List.mem_cons_self 1 linked⟩

/-- The stale label is stored again after the last id of a text has been used. -/
def exhaustingHistory : List Operation :=
  [.storeTerms laggingStore ⟨.item, 1⟩ oneLabel, .sync Part.all,
    .deleteTerms laggingStore ⟨.item, 1⟩,
    .acquireIds laggingStore.batch .primary .text ["last"]
      (some (ForcedIds.empty.insert "last" Int64.maxValue)),
    .storeTerms laggingStore ⟨.item, 1⟩ oneLabel]

def exhaustedTimeline : Timeline :=
  ((performAll exhaustingHistory).run (Timeline.start Table.empty Database.empty)).2

/-- The call fails when it restores the term that it has linked, and the link stays. -/
theorem link_dangles_exhausted :
    (1, 1) ∈ exhaustedTimeline.storage.primary.itemLinks.pairs ∧
      1 ∉ exhaustedTimeline.storage.primary.termInLang.ids := by
  decide +kernel

end Termbase
