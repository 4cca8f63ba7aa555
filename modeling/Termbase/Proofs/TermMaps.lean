import Mathlib.Data.List.Sort
import Termbase.Proofs.Lists
import Termbase.Term.TermMap

namespace Termbase

theorem placeLanguage_last {α : Type} {language : String} {value : α}
    {entries : List (String × α)} (above : ∀ entry ∈ entries, entry.1 < language) :
    placeLanguage language value entries = entries ++ [(language, value)] := by
  induction entries with
  | nil => rfl
  | cons entry entries ih =>
    have hlt := above entry List.mem_cons_self
    have hnot : ¬language < entry.1 := String.lt_asymm hlt
    have hrest := ih fun other hother => above other (List.mem_cons_of_mem _ hother)
    unfold placeLanguage
    rw [if_neg hnot, if_pos hlt, hrest, List.cons_append]

theorem lookup_placeLanguage {α : Type} {language other : String} {value : α}
    {entries : List (String × α)} :
    (placeLanguage language value entries).lookup other =
      if other = language then some value else entries.lookup other := by
  induction entries with
  | nil => exact lookup_cons_eq
  | cons entry entries ih =>
    unfold placeLanguage
    split
    next => exact lookup_cons_eq
    next notBefore =>
      split
      next after =>
        rw [lookup_cons_eq, lookup_cons_eq, ih]
        by_cases h : other = language
        · subst h
          have different : other ≠ entry.1 := (String.ne_of_lt after).symm
          rw [if_neg different, if_pos rfl, if_pos rfl]
        · rw [if_neg h, if_neg h]
      next notAfter =>
        have same : entry.1 = language :=
          String.le_antisymm (String.not_lt.mp notBefore) (String.not_lt.mp notAfter)
        rw [lookup_cons_eq, lookup_cons_eq, same]
        split <;> rfl

theorem placeLanguage_ne_nil {α : Type} (language : String) (value : α)
    (entries : List (String × α)) : placeLanguage language value entries ≠ [] := by
  cases entries with
  | nil => exact List.cons_ne_nil _ _
  | cons entry entries =>
    unfold placeLanguage
    split
    next => exact List.cons_ne_nil _ _
    next => split <;> exact List.cons_ne_nil _ _

theorem LanguageMap.languages_nodup {α : Type} (map : LanguageMap α) :
    (map.entries.map Prod.fst).Nodup :=
  map.languages_ascending.imp fun h => String.ne_of_lt h

theorem LanguageMap.get?_erase {α : Type} {map : LanguageMap α} {language other : String} :
    (map.erase language).get? other = if other = language then none else map.get? other :=
  lookup_filter_ne

theorem LanguageMap.eq_of_entries {α : Type} {map other : LanguageMap α}
    (h : map.entries = other.entries) : map = other := by
  cases map
  cases other
  cases h
  rfl

theorem LanguageMap.eq_of_get? {α : Type} {map other : LanguageMap α}
    (same : ∀ language, map.get? language = other.get? language) : map = other := by
  have asymm : Std.Asymm fun a b : String × α => a.1 < b.1 :=
    ⟨fun _ _ first second => String.lt_asymm first second⟩
  refine eq_of_entries ((List.pairwise_map.mp map.languages_ascending).eq_of_mem_iff
    (List.pairwise_map.mp other.languages_ascending) fun entry => ?_)
  rw [← lookup_eq_some_iff_mem map.languages_nodup, ← lookup_eq_some_iff_mem other.languages_nodup]
  exact iff_of_eq (congrArg (· = some entry.2) (same entry.1))

theorem TermType.ofName?_name (type : TermType) : TermType.ofName? type.name = some type := by
  cases type <;> decide

def TermType.rank : TermType → Nat
  | .label => 0
  | .description => 1
  | .synonym => 2

namespace TermMap

variable {α β : Type}

/-- The order of types and, within a type, of languages. -/
def Before (a b : TermType × String × α) : Prop :=
  a.1.rank < b.1.rank ∨ a.1 = b.1 ∧ a.2.1 < b.2.1

def entriesOf (map : TermMap α) (type : TermType) : List (TermType × String × List α) :=
  match map.languages? type with
  | none => []
  | some languages => languages.entries.map fun entry => (type, entry.1, entry.2)

theorem entries_eq (map : TermMap α) :
    map.entries =
      map.entriesOf .label ++ (map.entriesOf .description ++ map.entriesOf .synonym) := by
  rw [← List.append_nil (map.entriesOf .synonym)]
  rfl

theorem type_of_mem_entriesOf {map : TermMap α} {type : TermType}
    {entry : TermType × String × List α} (h : entry ∈ map.entriesOf type) : entry.1 = type := by
  unfold entriesOf at h
  split at h
  next => simp at h
  next =>
    obtain ⟨pair, _, rfl⟩ := List.mem_map.mp h
    rfl

theorem mem_entries {map : TermMap α} {entry : TermType × String × List α} :
    entry ∈ map.entries ↔ entry ∈ map.entriesOf entry.1 := by
  rw [entries_eq, List.mem_append, List.mem_append]
  constructor
  · rintro (h | h | h) <;> exact (type_of_mem_entriesOf h).symm ▸ h
  · intro h
    cases hType : entry.1 with
    | label => exact Or.inl (hType ▸ h)
    | description => exact Or.inr (Or.inl (hType ▸ h))
    | synonym => exact Or.inr (Or.inr (hType ▸ h))

theorem mem_entries_iff_get? {map : TermMap α} {type : TermType} {language : String}
    {list : List α} :
    (type, language, list) ∈ map.entries ↔ map.get? type language = some list := by
  rw [mem_entries]
  unfold entriesOf get?
  cases map.languages? type with
  | none => simp
  | some languages =>
    rw [Option.bind_some]
    unfold LanguageMap.get?
    rw [lookup_eq_some_iff_mem languages.languages_nodup]
    simp only [List.mem_map]
    constructor
    · rintro ⟨pair, hpair, he⟩
      cases he
      exact hpair
    · exact fun h => ⟨(language, list), h, rfl⟩

theorem entriesOf_pairwise (map : TermMap α) (type : TermType) :
    (map.entriesOf type).Pairwise Before := by
  unfold entriesOf
  split
  next => exact List.Pairwise.nil
  next languages _ =>
    have hascending := List.pairwise_map.mp languages.languages_ascending
    exact List.pairwise_map.mpr (hascending.imp fun h => Or.inr ⟨rfl, h⟩)

theorem before_of_types {map : TermMap α} {first second : TermType}
    (h : first.rank < second.rank) : ∀ a ∈ map.entriesOf first, ∀ b ∈ map.entriesOf second,
      Before a b := by
  intro a ha b hb
  refine Or.inl ?_
  rw [type_of_mem_entriesOf ha, type_of_mem_entriesOf hb]
  exact h

theorem entries_pairwise (map : TermMap α) : map.entries.Pairwise Before := by
  rw [entries_eq]
  refine List.pairwise_append.mpr ⟨entriesOf_pairwise _ _, List.pairwise_append.mpr
    ⟨entriesOf_pairwise _ _, entriesOf_pairwise _ _, before_of_types (by decide)⟩, ?_⟩
  intro a ha b hb
  rcases List.mem_append.mp hb with hb | hb
  · exact before_of_types (by decide) a ha b hb
  · exact before_of_types (by decide) a ha b hb

theorem languages?_put {map : TermMap α} {type other : TermType} {language : String}
    {list : List α} :
    (map.put type language list).languages? other =
      if other = type then
        some (((map.languages? type).getD LanguageMap.empty).insert language list)
      else map.languages? other := by
  cases type <;> cases other <;> rfl

theorem entriesOf_put_of_ne {map : TermMap α} {type other : TermType} {language : String}
    {list : List α} (h : other ≠ type) :
    (map.put type language list).entriesOf other = map.entriesOf other := by
  unfold entriesOf
  rw [languages?_put, if_neg h]

theorem entriesOf_put_self {map : TermMap α} {type : TermType} {language : String}
    {list : List α} (last : ∀ entry ∈ map.entriesOf type, entry.2.1 < language) :
    (map.put type language list).entriesOf type =
      map.entriesOf type ++ [(type, language, list)] := by
  unfold entriesOf at last ⊢
  rw [languages?_put, if_pos rfl]
  cases hlanguages : map.languages? type with
  | none => rfl
  | some languages =>
    rw [hlanguages] at last
    have above : ∀ entry ∈ languages.entries, entry.1 < language :=
      fun entry hentry => last _ (List.mem_map.mpr ⟨entry, hentry, rfl⟩)
    simp only [Option.getD_some, LanguageMap.insert]
    rw [placeLanguage_last above, List.map_append]
    rfl

theorem entries_put_last {map : TermMap α} {type : TermType} {language : String} {list : List α}
    (last : ∀ entry ∈ map.entries, Before entry (type, language, list)) :
    (map.put type language list).entries = map.entries ++ [(type, language, list)] := by
  have within : ∀ entry ∈ map.entriesOf type, entry.2.1 < language := by
    intro entry hentry
    have htype := type_of_mem_entriesOf hentry
    rcases last entry (mem_entries.mpr (htype.symm ▸ hentry)) with h | h
    · rw [htype] at h
      exact absurd h (Nat.lt_irrefl _)
    · exact h.2
  have behind : ∀ other : TermType, type.rank < other.rank → map.entriesOf other = [] := by
    intro other hrank
    refine List.eq_nil_iff_forall_not_mem.mpr fun entry hentry => ?_
    have htype := type_of_mem_entriesOf hentry
    rcases last entry (mem_entries.mpr (htype.symm ▸ hentry)) with h | h
    · rw [htype] at h
      exact Nat.lt_asymm h hrank
    · have he : other = type := htype.symm.trans h.1
      rw [he] at hrank
      exact Nat.lt_irrefl _ hrank
  rw [entries_eq, entries_eq]
  cases type with
  | label =>
    rw [entriesOf_put_self within, entriesOf_put_of_ne (by decide),
      entriesOf_put_of_ne (by decide), behind .description (by decide),
      behind .synonym (by decide)]
    simp
  | description =>
    rw [entriesOf_put_self within, entriesOf_put_of_ne (by decide),
      entriesOf_put_of_ne (by decide), behind .synonym (by decide)]
    simp
  | synonym =>
    rw [entriesOf_put_self within, entriesOf_put_of_ne (by decide),
      entriesOf_put_of_ne (by decide)]
    simp

theorem entries_empty : (empty : TermMap α).entries = [] := rfl

/-- Putting lists in order gives a map with just these entries. -/
theorem entries_foldl_put {entries : List (TermType × String × List α)}
    (ordered : entries.Pairwise Before) :
    (entries.foldl (fun map entry => map.put entry.1 entry.2.1 entry.2.2) empty).entries =
      entries := by
  suffices general : ∀ (back : List (TermType × String × List α)) (map : TermMap α),
      (map.entries ++ back).Pairwise Before →
        (back.foldl (fun map entry => map.put entry.1 entry.2.1 entry.2.2) map).entries =
          map.entries ++ back by
    exact general entries empty ordered
  intro back
  induction back with
  | nil => simp
  | cons entry back ih =>
    intro map h
    have last : (map.put entry.1 entry.2.1 entry.2.2).entries = map.entries ++ [entry] :=
      entries_put_last fun other hother =>
        (List.pairwise_append.mp h).2.2 other hother entry List.mem_cons_self
    rw [List.foldl_cons, ih _ (by rw [last, List.append_assoc]; exact h), last, List.append_assoc]
    rfl

theorem get?_put {map : TermMap α} {type other : TermType} {language otherLanguage : String}
    {list : List α} :
    (map.put type language list).get? other otherLanguage =
      if other = type ∧ otherLanguage = language then some list
      else map.get? other otherLanguage := by
  unfold get?
  rw [languages?_put]
  by_cases same : other = type
  · subst same
    rw [if_pos rfl, Option.bind_some]
    unfold LanguageMap.get? LanguageMap.insert
    simp only [lookup_placeLanguage, true_and]
    cases map.languages? other with
    | none => rfl
    | some languages => rfl
  · rw [if_neg same, if_neg fun h => same h.1]

theorem languages?_withLanguages {map : TermMap α} {type other : TermType}
    {languages : Option (LanguageMap (List α))} :
    (map.withLanguages type languages).languages? other =
      if other = type then languages else map.languages? other := by
  cases type <;> cases other <;> rfl

theorem get?_remove {map : TermMap α} {type other : TermType} {language otherLanguage : String} :
    (map.remove type language).get? other otherLanguage =
      if other = type ∧ otherLanguage = language then none
      else map.get? other otherLanguage := by
  unfold remove
  split
  next hnone =>
    split
    next same => rw [same.1, get?, hnone, Option.bind_none]
    next => rfl
  next languages hlanguages =>
    have rest : (if (languages.erase language).entries = [] then none
        else some (languages.erase language)).bind (fun rest => rest.get? otherLanguage) =
        if otherLanguage = language then none else languages.get? otherLanguage := by
      rw [← LanguageMap.get?_erase]
      split
      next none => rw [LanguageMap.get?, none]; rfl
      next => rfl
    unfold get?
    rw [languages?_withLanguages]
    by_cases same : other = type
    · simp only [same, hlanguages, if_true, true_and, Option.bind_some]
      exact rest
    · rw [if_neg same, if_neg fun h => same h.1]

theorem eq_of_languages? {map other : TermMap α}
    (same : ∀ type, map.languages? type = other.languages? type) : map = other := by
  have label := same .label
  have description := same .description
  have synonym := same .synonym
  cases map
  cases other
  simp_all only [languages?]

theorem mem_types_of_get? {map : TermMap α} {type : TermType} {language : String} {list : List α}
    (h : map.get? type language = some list) : type ∈ map.types := by
  obtain ⟨languages, hlanguages, _⟩ := Option.bind_eq_some_iff.mp h
  have listed : type ∈ TermType.all := by cases type <;> decide
  exact List.mem_filter.mpr ⟨listed, Option.isSome_iff_exists.mpr ⟨languages, hlanguages⟩⟩

/-- The type has a language if it is there. -/
def PopulatedAt (map : TermMap α) (type : TermType) : Prop :=
  ∀ languages, map.languages? type = some languages → languages.entries ≠ []

namespace PopulatedAt

variable {map : TermMap α} {type other : TermType}

theorem exists_get? (populated : map.PopulatedAt type) {languages : LanguageMap (List α)}
    (h : map.languages? type = some languages) :
    ∃ language list, map.get? type language = some list := by
  obtain ⟨entry, hentry⟩ := List.exists_mem_of_ne_nil _ (populated languages h)
  refine ⟨entry.1, entry.2, ?_⟩
  unfold get?
  rw [h]
  exact (lookup_eq_some_iff_mem languages.languages_nodup).mpr hentry

/-- The lists of a type tell what is there of it. -/
theorem languages?_eq {second : TermMap α} (populated : map.PopulatedAt type)
    (secondPopulated : second.PopulatedAt type)
    (same : ∀ language, map.get? type language = second.get? type language) :
    map.languages? type = second.languages? type := by
  cases hmap : map.languages? type with
  | none =>
    cases hsecond : second.languages? type with
    | none => rfl
    | some languages =>
      obtain ⟨language, list, hlist⟩ := secondPopulated.exists_get? hsecond
      rw [← same, get?, hmap] at hlist
      cases hlist
  | some languages =>
    cases hsecond : second.languages? type with
    | none =>
      obtain ⟨language, list, hlist⟩ := populated.exists_get? hmap
      rw [same, get?, hsecond] at hlist
      cases hlist
    | some others =>
      refine congrArg some (LanguageMap.eq_of_get? fun language => ?_)
      have lists := same language
      unfold get? at lists
      rw [hmap, hsecond] at lists
      exact lists

/-- The type that an operation is about has a language afterwards, whatever was there before. -/
theorem remove (elsewhere : other ≠ type → map.PopulatedAt other) (language : String) :
    (map.remove type language).PopulatedAt other := by
  intro languages h
  unfold TermMap.remove at h
  split at h
  next absent =>
    refine elsewhere (fun same => ?_) languages h
    rw [same, absent] at h
    cases h
  next rest _ =>
    rw [languages?_withLanguages] at h
    by_cases same : other = type
    · rw [if_pos same] at h
      split at h
      next => cases h
      next left =>
        cases Option.some.inj h
        exact left
    · rw [if_neg same] at h
      exact elsewhere same languages h

theorem put (elsewhere : other ≠ type → map.PopulatedAt other) (language : String)
    (list : List α) : (map.put type language list).PopulatedAt other := by
  intro languages h
  rw [languages?_put] at h
  by_cases same : other = type
  · rw [if_pos same] at h
    cases Option.some.inj h
    exact placeLanguage_ne_nil _ _ _
  · rw [if_neg same] at h
    exact elsewhere same languages h

theorem set (elsewhere : other ≠ type → map.PopulatedAt other) (language : String)
    (list : List α) : (map.set type language list).PopulatedAt other := by
  unfold TermMap.set
  split
  next => exact remove elsewhere language
  next => exact put elsewhere language list

end PopulatedAt

/-- No type is there without a language. -/
def Populated (map : TermMap α) : Prop :=
  ∀ type languages, map.languages? type = some languages → languages.entries ≠ []

namespace Populated

theorem eq_of_get? {map other : TermMap α} (populated : map.Populated)
    (otherPopulated : other.Populated)
    (same : ∀ type language, map.get? type language = other.get? type language) : map = other :=
  eq_of_languages? fun type =>
    PopulatedAt.languages?_eq (populated type) (otherPopulated type) (same type)

/-- The types that are there are those that have a list. -/
theorem mem_types_iff {map : TermMap α} (populated : map.Populated) {type : TermType} :
    type ∈ map.types ↔ ∃ language list, map.get? type language = some list := by
  constructor
  · intro h
    obtain ⟨languages, hlanguages⟩ := Option.isSome_iff_exists.mp (List.mem_filter.mp h).2
    exact PopulatedAt.exists_get? (populated type) hlanguages
  · rintro ⟨language, list, hlist⟩
    exact mem_types_of_get? hlist

theorem remove {map : TermMap α} (populated : map.Populated) (type : TermType)
    (language : String) : (map.remove type language).Populated :=
  fun other => PopulatedAt.remove (fun _ => populated other) language

theorem set {map : TermMap α} (populated : map.Populated) (type : TermType) (language : String)
    (list : List α) : (map.set type language list).Populated :=
  fun other => PopulatedAt.set (fun _ => populated other) language list

end Populated

theorem populated_empty : (empty : TermMap α).Populated := by
  intro type languages h
  cases type <;> cases h

theorem get?_empty (type : TermType) (language : String) :
    (empty : TermMap α).get? type language = none := by
  cases type <;> rfl

/-- An empty list takes the language away. -/
theorem get?_set_eq {map : TermMap α} {type other : TermType} {language otherLanguage : String}
    {list : List α} :
    (map.set type language list).get? other otherLanguage =
      if other = type ∧ otherLanguage = language then if list = [] then none else some list
      else map.get? other otherLanguage := by
  unfold set
  cases list with
  | nil => rw [List.isEmpty_nil, if_pos rfl, get?_remove, if_pos rfl]
  | cons x list =>
    rw [List.isEmpty_cons, if_neg Bool.false_ne_true, get?_put, if_neg (List.cons_ne_nil x list)]

theorem append_eq_set (map : TermMap α) (type : TermType) (language : String) (x : α) :
    map.append type language x =
      map.set type language ((map.get? type language).getD [] ++ [x]) := by
  have filled : ((map.get? type language).getD [] ++ [x]).isEmpty = false := by simp
  rw [set, filled, if_neg Bool.false_ne_true, append]

theorem Populated.append {map : TermMap α} (populated : map.Populated) (type : TermType)
    (language : String) (x : α) : (map.append type language x).Populated := by
  rw [append_eq_set]
  exact populated.set _ _ _

theorem languages?_set_of_ne {map : TermMap α} {type other : TermType} {language : String}
    {list : List α} (h : other ≠ type) :
    (map.set type language list).languages? other = map.languages? other := by
  unfold set
  split
  next =>
    unfold remove
    split
    next => rfl
    next => rw [languages?_withLanguages, if_neg h]
  next => rw [languages?_put, if_neg h]

/-- Lists of different types or languages can be given in either order. -/
theorem set_comm (map : TermMap α) {type other : TermType} {language otherLanguage : String}
    {list otherList : List α} (different : ¬(type = other ∧ language = otherLanguage)) :
    (map.set type language list).set other otherLanguage otherList =
      (map.set other otherLanguage otherList).set type language list := by
  -- The types are taken one by one, as there may be types without a language among the others.
  refine eq_of_languages? fun third => ?_
  by_cases untouched : third ≠ type ∧ third ≠ other
  · rw [languages?_set_of_ne untouched.2, languages?_set_of_ne untouched.1,
      languages?_set_of_ne untouched.1, languages?_set_of_ne untouched.2]
  · refine PopulatedAt.languages?_eq ?_ ?_ fun thirdLanguage => ?_
    · exact PopulatedAt.set (fun second => PopulatedAt.set (fun first =>
        absurd ⟨first, second⟩ untouched) _ _) _ _
    · exact PopulatedAt.set (fun first => PopulatedAt.set (fun second =>
        absurd ⟨first, second⟩ untouched) _ _) _ _
    · simp only [get?_set_eq]
      by_cases here : third = type ∧ thirdLanguage = language
      · have elsewhere : ¬(third = other ∧ thirdLanguage = otherLanguage) := fun there =>
          different ⟨here.1.symm.trans there.1, here.2.symm.trans there.2⟩
        rw [if_neg elsewhere, if_pos here, if_pos here]
      · rw [if_neg here, if_neg here]

/-- An empty list is as good as none. -/
theorem get?_set {map : TermMap α} {type other : TermType} {language otherLanguage : String}
    {list : List α} :
    ((map.set type language list).get? other otherLanguage).getD [] =
      if other = type ∧ otherLanguage = language then list
      else (map.get? other otherLanguage).getD [] := by
  rw [get?_set_eq]
  split
  next => cases list <;> rfl
  next => rfl

theorem isEmpty_iff {map : TermMap α} :
    map.isEmpty = true ↔ ∀ type language list, map.get? type language = some list → list = [] := by
  unfold isEmpty
  rw [List.all_eq_true]
  constructor
  · intro h type language list hlist
    exact List.isEmpty_iff.mp (h _ (mem_entries_iff_get?.mpr hlist))
  · rintro h ⟨type, language, list⟩ hentry
    exact List.isEmpty_iff.mpr (h type language list (mem_entries_iff_get?.mp hentry))

/-- The element at a place in the list of a type and language. -/
def at? (map : TermMap α) (type : TermType) (language : String) (place : Nat) : Option α :=
  (map.get? type language).bind fun list => list[place]?

/-- The types and languages that have a list, with the lengths of the lists. -/
def shape (map : TermMap α) : List (TermType × String × Nat) :=
  map.entries.map fun entry => (entry.1, entry.2.1, entry.2.2.length)

end TermMap

end Termbase
