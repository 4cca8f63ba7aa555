import Mathlib.Tactic.Choose
import Termbase.Interning.Passes
import Termbase.Proofs.TermMaps

namespace Termbase

/-- What a term id stands for: a kept text in a language as a term of some type. -/
structure Fact where
  type : TermType
  language : String
  text : String
  deriving DecidableEq

namespace TermSet

/-- The facts of a term set, one for each text. -/
def facts (terms : TermSet) : List Fact :=
  terms.occurrences.map fun term => ⟨term.1, term.2.1, Text.kept term.2.2⟩

/-- The entries of a term set with the ids of its facts in place of its texts. -/
def idEntries (terms : TermSet) (idOf : Fact → RowId) : List (TermType × String × List RowId) :=
  terms.entries.map fun entry => (entry.1, entry.2.1,
    entry.2.2.map fun text => idOf ⟨entry.1, entry.2.1, Text.kept text⟩)

/-- The ids of a term set's facts, in the shape of the term set. -/
def withIds (terms : TermSet) (idOf : Fact → RowId) : TermIds :=
  (terms.idEntries idOf).foldl (fun ids entry => ids.put entry.1 entry.2.1 entry.2.2)
    TermMap.empty

theorem entries_withIds (terms : TermSet) (idOf : Fact → RowId) :
    (terms.withIds idOf).entries = terms.idEntries idOf :=
  TermMap.entries_foldl_put (List.pairwise_map.mpr terms.entries_pairwise)

theorem facts_eq_flatMap (terms : TermSet) :
    terms.facts = terms.entries.flatMap fun entry =>
      entry.2.2.map fun text => ⟨entry.1, entry.2.1, Text.kept text⟩ := by
  unfold facts TermMap.occurrences
  rw [List.map_flatMap]
  refine congrArg (terms.entries.flatMap ·) (funext fun entry => ?_)
  rw [List.map_map]
  rfl

theorem mem_facts_of_entry {terms : TermSet} {entry : TermType × String × List String}
    (hentry : entry ∈ terms.entries) {text : String} (htext : text ∈ entry.2.2) :
    (⟨entry.1, entry.2.1, Text.kept text⟩ : Fact) ∈ terms.facts := by
  rw [facts_eq_flatMap]
  exact List.mem_flatMap.mpr ⟨entry, hentry, List.mem_map.mpr ⟨text, htext, rfl⟩⟩

theorem values_withIds (terms : TermSet) (idOf : Fact → RowId) :
    (terms.withIds idOf).values = terms.facts.map idOf := by
  unfold TermMap.values
  rw [entries_withIds, idEntries, facts_eq_flatMap, List.map_flatMap, List.flatMap_map]
  refine congrArg (terms.entries.flatMap ·) (funext fun entry => ?_)
  rw [List.map_map]
  rfl

theorem mem_ids_withIds {terms : TermSet} {idOf : Fact → RowId} {id : RowId} :
    id ∈ (terms.withIds idOf).ids ↔ ∃ fact ∈ terms.facts, idOf fact = id := by
  unfold TermIds.ids
  rw [mem_ascending, values_withIds, List.mem_map]

theorem withIds_congr {terms : TermSet} {f g : Fact → RowId}
    (h : ∀ fact ∈ terms.facts, f fact = g fact) : terms.withIds f = terms.withIds g := by
  have same : terms.idEntries f = terms.idEntries g := by
    refine List.map_congr_left fun entry hentry => ?_
    rw [List.map_congr_left fun text htext => h _ (mem_facts_of_entry hentry htext)]
  unfold withIds
  rw [same]

theorem get?_withIds {terms : TermSet} {idOf : Fact → RowId} {type : TermType}
    {language : String} {texts : List String} (h : (type, language, texts) ∈ terms.entries) :
    (terms.withIds idOf).get? type language =
      some (texts.map fun text => idOf ⟨type, language, Text.kept text⟩) := by
  rw [← TermMap.mem_entries_iff_get?, entries_withIds]
  exact List.mem_map.mpr ⟨_, h, rfl⟩

theorem shape_withIds (terms : TermSet) (idOf : Fact → RowId) :
    (terms.withIds idOf).shape = terms.shape := by
  unfold TermMap.shape
  rw [entries_withIds, idEntries, List.map_map]
  refine List.map_congr_left fun entry _ => ?_
  simp

theorem at?_withIds (terms : TermSet) (idOf : Fact → RowId) (type : TermType)
    (language : String) (place : Nat) :
    (terms.withIds idOf).at? type language place =
      (terms.at? type language place).map fun text => idOf ⟨type, language, Text.kept text⟩ := by
  unfold TermMap.at?
  cases hget : terms.get? type language with
  | some texts =>
    rw [get?_withIds (TermMap.mem_entries_iff_get?.mpr hget)]
    simp
  | none =>
    have hnone : (terms.withIds idOf).get? type language = none := by
      refine Option.eq_none_iff_forall_ne_some.mpr fun ids hids => ?_
      rw [← TermMap.mem_entries_iff_get?, entries_withIds] at hids
      obtain ⟨entry, hentry, he⟩ := List.mem_map.mp hids
      cases he
      have hsome := TermMap.mem_entries_iff_get?.mp hentry
      rw [hget] at hsome
      simp at hsome
    rw [hnone]
    rfl

theorem mem_facts_of_at? {terms : TermSet} {type : TermType} {language text : String}
    {place : Nat} (h : terms.at? type language place = some text) :
    (⟨type, language, Text.kept text⟩ : Fact) ∈ terms.facts := by
  obtain ⟨texts, hget, htext⟩ := Option.bind_eq_some_iff.mp h
  exact mem_facts_of_entry (TermMap.mem_entries_iff_get?.mpr hget) (List.mem_of_getElem? htext)

theorem facts_eq_nil {terms : TermSet} (h : terms.isEmpty = true) : terms.facts = [] := by
  rw [facts_eq_flatMap]
  refine List.flatMap_eq_nil_iff.mpr fun entry hentry => ?_
  have hempty := List.all_eq_true.mp h entry hentry
  rw [List.isEmpty_iff.mp hempty]
  rfl

theorem type_mem_of_mem_facts {terms : TermSet} {fact : Fact} (h : fact ∈ terms.facts) :
    fact.type ∈ terms.types := by
  rw [facts_eq_flatMap] at h
  obtain ⟨entry, hentry, hfact⟩ := List.mem_flatMap.mp h
  obtain ⟨text, _, rfl⟩ := List.mem_map.mp hfact
  exact TermMap.mem_types_of_get? (TermMap.mem_entries_iff_get?.mp hentry)

end TermSet

section Except

variable {ε α β : Type}

theorem mapM_ok {f : α → Except ε β} {g : α → β} {xs : List α}
    (h : ∀ x ∈ xs, f x = .ok (g x)) : xs.mapM f = .ok (xs.map g) := by
  induction xs with
  | nil => rfl
  | cons x xs ih =>
    have hrest := ih fun y hy => h y (List.mem_cons_of_mem _ hy)
    rw [List.mapM_cons, h x List.mem_cons_self, hrest]
    rfl

theorem mapM_ok_mem {f : α → Except ε β} {xs : List α} {ys : List β} (h : xs.mapM f = .ok ys) :
    ∀ x ∈ xs, ∃ y, f x = .ok y := by
  induction xs generalizing ys with
  | nil => simp
  | cons x xs ih =>
    rw [List.mapM_cons] at h
    cases hx : f x with
    | error failure =>
      rw [hx] at h
      cases h
    | ok y =>
      cases hxs : xs.mapM f with
      | error failure =>
        rw [hx, hxs] at h
        cases h
      | ok rest =>
        intro z hz
        rcases List.mem_cons.mp hz with rfl | hz
        · exact ⟨y, hx⟩
        · exact ih hxs z hz

theorem mapM_error_mem {f : α → Except ε β} {xs : List α} {failure : ε}
    (h : xs.mapM f = .error failure) : ∃ x ∈ xs, f x = .error failure := by
  induction xs with
  | nil => cases h
  | cons x xs ih =>
    rw [List.mapM_cons] at h
    cases hx : f x with
    | error other =>
      rw [hx] at h
      cases h
      exact ⟨x, List.mem_cons_self, hx⟩
    | ok y =>
      cases hxs : xs.mapM f with
      | error other =>
        rw [hx, hxs] at h
        cases h
        obtain ⟨z, hz, hfailure⟩ := ih hxs
        exact ⟨z, List.mem_cons_of_mem _ hz, hfailure⟩
      | ok rest =>
        rw [hx, hxs] at h
        cases h

theorem foldlM_ok_mem {f : β → α → Except ε β} {xs : List α} {start last : β}
    (h : xs.foldlM f start = .ok last) : ∀ x ∈ xs, ∃ state next, f state x = .ok next := by
  induction xs generalizing start with
  | nil => simp
  | cons x xs ih =>
    rw [List.foldlM_cons] at h
    cases hx : f start x with
    | error failure =>
      rw [hx] at h
      cases h
    | ok next =>
      rw [hx] at h
      intro y hy
      rcases List.mem_cons.mp hy with rfl | hy
      · exact ⟨start, next, hx⟩
      · exact ih h y hy

theorem foldlM_error_mem {f : β → α → Except ε β} {xs : List α} {start : β} {failure : ε}
    (h : xs.foldlM f start = .error failure) : ∃ x ∈ xs, ∃ state, f state x = .error failure := by
  induction xs generalizing start with
  | nil => cases h
  | cons x xs ih =>
    rw [List.foldlM_cons] at h
    cases hx : f start x with
    | error other =>
      rw [hx] at h
      cases h
      exact ⟨x, List.mem_cons_self, start, hx⟩
    | ok next =>
      rw [hx] at h
      obtain ⟨y, hy, state, hfailure⟩ := ih h
      exact ⟨y, List.mem_cons_of_mem _ hy, state, hfailure⟩

theorem foldlM_ok {f : β → α → Except ε β} {g : β → α → β} {xs : List α}
    (h : ∀ state, ∀ x ∈ xs, f state x = .ok (g state x)) (start : β) :
    xs.foldlM f start = .ok (xs.foldl g start) := by
  induction xs generalizing start with
  | nil => rfl
  | cons x xs ih =>
    rw [List.foldlM_cons, h start x List.mem_cons_self]
    exact ih (fun state y hy => h state y (List.mem_cons_of_mem _ hy)) (g start x)

end Except

end Termbase
