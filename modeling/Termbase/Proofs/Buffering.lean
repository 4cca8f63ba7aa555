import Mathlib.Data.List.Sort
import Termbase.Lookup
import Termbase.Proofs.Actions
import Termbase.Proofs.TermMaps

namespace Termbase

theorem EntityKind.eq_of_rank {a b : EntityKind} (h : a.rank = b.rank) : a = b := by
  cases a <;> cases b <;> first | rfl | cases h

namespace EntityId

theorem lt_trans (a b c : EntityId) (first : a < b) (second : b < c) : a < c := by
  rcases first with first | ⟨kind, first⟩
  · rcases second with second | ⟨other, _⟩
    · exact Or.inl (Nat.lt_trans first second)
    · exact Or.inl (other ▸ first)
  · rcases second with second | ⟨other, second⟩
    · exact Or.inl (kind ▸ second)
    · exact Or.inr ⟨kind.trans other, UInt32.lt_trans first second⟩

theorem lt_of_not_lt (a b : EntityId) (h : ¬a < b) (different : a ≠ b) : b < a := by
  have ranks : b.kind.rank ≤ a.kind.rank := Nat.not_lt.mp fun lower => h (Or.inl lower)
  rcases Nat.lt_or_eq_of_le ranks with lower | same
  · exact Or.inl lower
  · have kinds := EntityKind.eq_of_rank same
    have numbers : b.number ≤ a.number :=
      UInt32.not_lt.mp fun lower => h (Or.inr ⟨kinds.symm, lower⟩)
    refine Or.inr ⟨kinds, UInt32.lt_of_le_of_ne numbers fun same => different ?_⟩
    cases a
    cases b
    simp_all only

theorem lt_irrefl (a : EntityId) : ¬a < a := by
  rintro (lower | ⟨_, lower⟩)
  · exact Nat.lt_irrefl _ lower
  · exact UInt32.lt_irrefl _ lower

instance : Std.Asymm fun a b : EntityId => a < b :=
  ⟨fun a b first second => lt_irrefl a (lt_trans a b a first second)⟩

end EntityId

/-- What there is to read when these are the texts. -/
def Reading.ofTexts : List String → Reading
  | [] => .absent
  | text :: _ => .found text

/-- The texts of an entity among the terms of entities. -/
def textsIn (terms : List (EntityId × TermSet)) (entity : EntityId) (type : TermType)
    (language : String) : List String :=
  ((terms.lookup entity).bind fun terms => terms.get? type language).getD []

theorem textsIn_eq {terms : List (EntityId × TermSet)} {entity : EntityId} {type : TermType}
    {language : String} : textsIn terms entity type language =
      (((terms.lookup entity).getD TermMap.empty).get? type language).getD [] := by
  unfold textsIn
  cases terms.lookup entity with
  | none => cases type <;> rfl
  | some terms => rfl

/-- The terms of entities, in the two steps that a source takes. -/
def TermSource.termsOf {σ : Type} (source : TermSource σ) (entities : List EntityId)
    (selection : Selection) : Action σ (List (EntityId × TermSet)) := do
  source.resolveGroups (← source.linkedIdsOf entities) selection

namespace Lookup

theorem read_eq {lookup : Lookup} {entity : EntityId} (own : entity.kind = lookup.kind)
    (type : TermType) (language : String) : lookup.read entity type language =
      .ok (if (entity, type, language) ∈ lookup.fetched then
        .ofTexts (textsIn lookup.buffer entity type language) else .notPrefetched) := by
  unfold read checkKind
  rw [if_pos own]
  change (if (entity, type, language) ∉ lookup.fetched then _ else _) = _
  by_cases fetched : (entity, type, language) ∈ lookup.fetched
  · rw [if_neg (not_not_intro fetched), if_pos fetched]
    change (match textsIn lookup.buffer entity type language with
      | [] => _
      | text :: _ => _) = _
    cases textsIn lookup.buffer entity type language <;> rfl
  · rw [if_pos fetched, if_neg fetched]
    rfl

theorem readSynonyms_eq {lookup : Lookup} {entity : EntityId} (own : entity.kind = lookup.kind)
    (language : String) : lookup.readSynonyms entity language =
      .ok (if (entity, TermType.synonym, language) ∈ lookup.fetched then
        some (textsIn lookup.buffer entity .synonym language) else none) := by
  unfold readSynonyms checkKind
  rw [if_pos own]
  change (if (entity, TermType.synonym, language) ∉ lookup.fetched then _ else _) = _
  by_cases fetched : (entity, TermType.synonym, language) ∈ lookup.fetched
  · rw [if_neg (not_not_intro fetched), if_pos fetched]
    rfl
  · rw [if_pos fetched, if_neg fetched]
    rfl

/-- The asked texts are those of the source, and the others are as before. -/
structure Fills (asked : EntityId → TermType → String → Prop)
    (source : List (EntityId × TermSet)) (lookup next : Lookup) : Prop where
  kind : next.kind = lookup.kind
  fetched : ∀ entity type language, (entity, type, language) ∈ next.fetched ↔
    asked entity type language ∨ (entity, type, language) ∈ lookup.fetched
  filled : ∀ entity type language, asked entity type language →
    textsIn next.buffer entity type language = textsIn source entity type language
  kept : ∀ entity type language, ¬asked entity type language →
    textsIn next.buffer entity type language = textsIn lookup.buffer entity type language

theorem mem_noteFetched {entry other : EntityId × TermType × String}
    {entries : List (EntityId × TermType × String)} :
    other ∈ noteFetched entry entries ↔ other = entry ∨ other ∈ entries := by
  unfold noteFetched
  split
  next noted => exact ⟨Or.inr, fun h => h.elim (fun same => same ▸ noted) id⟩
  next => exact List.mem_cons

theorem textsIn_keep {lookup : Lookup} {entity other : EntityId} {type otherType : TermType}
    {language otherLanguage : String} {texts : List String} :
    textsIn (lookup.keep entity type language texts).buffer other otherType otherLanguage =
      if other = entity ∧ otherType = type ∧ otherLanguage = language then texts
      else textsIn lookup.buffer other otherType otherLanguage := by
  unfold keep
  rw [textsIn_eq, lookup_assign]
  by_cases same : other = entity
  · rw [if_pos same, Option.getD_some, TermMap.get?_set, same, @textsIn_eq lookup.buffer]
    simp only [true_and]
  · rw [if_neg same, if_neg fun h => same h.1, textsIn_eq]

theorem keep_fills (lookup : Lookup) (source : List (EntityId × TermSet)) (entity : EntityId)
    (type : TermType) (language : String) :
    Fills (fun e t l => e = entity ∧ t = type ∧ l = language) source lookup
      (lookup.keep entity type language (textsIn source entity type language)) := by
  refine ⟨rfl, fun e t l => ?_, fun e t l asked => ?_, fun e t l other => ?_⟩
  · refine mem_noteFetched.trans (or_congr_left ?_)
    rw [Prod.mk.injEq, Prod.mk.injEq]
  · rw [textsIn_keep, if_pos asked, asked.1, asked.2.1, asked.2.2]
  · rw [textsIn_keep, if_neg other]

namespace Fills

variable {asked also : EntityId → TermType → String → Prop} {source : List (EntityId × TermSet)}
  {lookup between next : Lookup}

theorem refl : Fills (fun _ _ _ => False) source lookup lookup :=
  ⟨rfl, fun _ _ _ => by rw [false_or], fun _ _ _ => False.elim, fun _ _ _ _ => rfl⟩

theorem congr (h : Fills asked source lookup next)
    (same : ∀ entity type language, asked entity type language ↔ also entity type language) :
    Fills also source lookup next := by
  have : asked = also := by
    funext entity type language
    exact propext (same entity type language)
  exact this ▸ h

theorem trans (first : Fills asked source lookup between)
    (second : Fills also source between next) :
    Fills (fun entity type language => asked entity type language ∨ also entity type language)
      source lookup next := by
  refine ⟨second.kind.trans first.kind, fun e t l => ?_, fun e t l either => ?_,
    fun e t l neither => ?_⟩
  · rw [second.fetched, first.fetched, or_assoc, or_left_comm]
  · by_cases last : also e t l
    · exact second.filled e t l last
    · rw [second.kept e t l last]
      exact first.filled e t l (either.resolve_right last)
  · rw [second.kept e t l fun h => neither (.inr h), first.kept e t l fun h => neither (.inl h)]

/-- Steps that fill their parts fill the whole. -/
theorem foldl {α : Type} {part : α → EntityId → TermType → String → Prop}
    {step : Lookup → α → Lookup} (steps : ∀ lookup x, Fills (part x) source lookup (step lookup x))
    (xs : List α) (lookup : Lookup) :
    Fills (fun entity type language => ∃ x ∈ xs, part x entity type language) source lookup
      (xs.foldl step lookup) := by
  induction xs generalizing lookup with
  | nil => exact refl.congr fun _ _ _ => by simp
  | cons x xs ih =>
    exact ((steps lookup x).trans (ih (step lookup x))).congr fun _ _ _ => by simp

end Fills

theorem keepAll_fills (lookup : Lookup) (resolved : List (EntityId × TermSet))
    (types : List TermType) (languages : List String) (entity : EntityId) :
    Fills (fun e t l => e = entity ∧ t ∈ types ∧ l ∈ languages) resolved lookup
      (lookup.keepAll resolved types languages entity) := by
  unfold keepAll
  simp only [← textsIn_eq]
  have fill := fun type => Fills.foldl (fun lookup language =>
    keep_fills lookup resolved entity type language) languages
  refine (Fills.foldl (fun lookup type => fill type lookup) types lookup).congr fun e t l => ?_
  constructor
  · rintro ⟨_, ht, _, hl, rfl, rfl, rfl⟩
    exact ⟨rfl, ht, hl⟩
  · rintro ⟨rfl, ht, hl⟩
    exact ⟨t, ht, l, hl, rfl, rfl, rfl⟩

/-- The entities of which something has not been fetched. -/
def wanted (lookup : Lookup) (entities : List EntityId) (types : List TermType)
    (languages : List String) : List EntityId :=
  ascending (entities.filter (lookup.lacks types languages))

def fill (lookup : Lookup) (resolved : List (EntityId × TermSet)) (types : List TermType)
    (languages : List String) (entities : List EntityId) : Lookup :=
  entities.foldl (fun lookup entity => lookup.keepAll resolved types languages entity) lookup

theorem fill_fills (lookup : Lookup) (resolved : List (EntityId × TermSet))
    (types : List TermType) (languages : List String) (entities : List EntityId) :
    Fills (fun e t l => e ∈ entities ∧ t ∈ types ∧ l ∈ languages) resolved lookup
      (lookup.fill resolved types languages entities) := by
  refine (Fills.foldl (fun lookup entity =>
    keepAll_fills lookup resolved types languages entity) entities lookup).congr fun e t l => ?_
  constructor
  · rintro ⟨_, he, rfl, asked⟩
    exact ⟨he, asked⟩
  · rintro ⟨he, asked⟩
    exact ⟨e, he, rfl, asked⟩

theorem lacks_iff {lookup : Lookup} {types : List TermType} {languages : List String}
    {entity : EntityId} : lookup.lacks types languages entity = true ↔
      ∃ type ∈ types, ∃ language ∈ languages, (entity, type, language) ∉ lookup.fetched := by
  simp only [lacks, List.any_eq_true, decide_eq_true_eq]

theorem mem_wanted {lookup : Lookup} {entities : List EntityId} {types : List TermType}
    {languages : List String} {entity : EntityId} :
    entity ∈ lookup.wanted entities types languages ↔ entity ∈ entities ∧
      ∃ type ∈ types, ∃ language ∈ languages, (entity, type, language) ∉ lookup.fetched := by
  rw [wanted, mem_ascending, List.mem_filter, lacks_iff]

theorem wanted_pairwise (lookup : Lookup) (entities : List EntityId) (types : List TermType)
    (languages : List String) : (lookup.wanted entities types languages).Pairwise (· < ·) :=
  ascending_pairwise EntityId.lt_trans EntityId.lt_of_not_lt _

/-- All entities have the kind of the lookup, or the first that does not is complained of. -/
theorem forM_checkKind (lookup : Lookup) (entities : List EntityId) :
    (∀ entity ∈ entities, entity.kind = lookup.kind) ∧
        entities.forM lookup.checkKind = .ok () ∨
      ∃ entity ∈ entities, entity.kind ≠ lookup.kind ∧ entities.forM lookup.checkKind =
        .error (.unsupportedEntityKind lookup.kind entity.kind) := by
  induction entities with
  | nil => exact Or.inl ⟨fun _ h => absurd h List.not_mem_nil, rfl⟩
  | cons entity entities ih =>
    change _ ∧ (lookup.checkKind entity >>= fun _ => entities.forM lookup.checkKind) = _ ∨
      ∃ _ ∈ _, _ ∧ (lookup.checkKind entity >>= fun _ => entities.forM lookup.checkKind) = _
    unfold checkKind at ih ⊢
    by_cases own : entity.kind = lookup.kind
    · rw [if_pos own]
      rcases ih with ⟨all, checked⟩ | ⟨other, hother, foreign, refused⟩
      · exact Or.inl ⟨List.forall_mem_cons.mpr ⟨own, all⟩, checked⟩
      · exact Or.inr ⟨other, List.mem_cons_of_mem _ hother, foreign, refused⟩
    · rw [if_neg own]
      exact Or.inr ⟨entity, List.mem_cons_self, own, rfl⟩

section Prefetch

variable {σ : Type} (source : TermSource σ) {lookup : Lookup} {entities : List EntityId}
  {types : List TermType} {languages : List String}

theorem prefetch_refused {failure : Failure}
    (refused : entities.forM lookup.checkKind = .error failure) :
    lookup.prefetch source entities types languages = Action.fail failure := by
  unfold prefetch
  rw [refused]
  rfl

theorem prefetch_idle (checked : entities.forM lookup.checkKind = .ok ())
    (nothing : lookup.wanted entities types languages = []) :
    lookup.prefetch source entities types languages = pure lookup := by
  unfold prefetch
  rw [checked, ← wanted, nothing]
  rfl

theorem run_wrapped {α : Type} (action : Action σ α) (state : σ) :
    (wrapped action).run state = ((action.run state).1.mapError .store, (action.run state).2) := by
  unfold wrapped
  rw [Action.run_rescue]
  rcases action.run state with ⟨_ | _, _⟩ <;> rfl

theorem wrapped_bind {α β : Type} (action : Action σ α) (next : α → Action σ β) :
    wrapped (action >>= next) = wrapped action >>= fun x => wrapped (next x) := by
  funext state
  change (wrapped _).run state = (wrapped action >>= _).run state
  rw [run_wrapped, Action.run_bind, Action.run_bind, run_wrapped]
  rcases action.run state with ⟨failure | x, after⟩
  · rfl
  · exact (run_wrapped (next x) after).symm

theorem prefetch_asking (checked : entities.forM lookup.checkKind = .ok ())
    (wants : lookup.wanted entities types languages ≠ []) :
    lookup.prefetch source entities types languages = do
      let resolved ← wrapped (source.termsOf (lookup.wanted entities types languages)
        ⟨types, languages⟩)
      return lookup.fill resolved types languages (lookup.wanted entities types languages) := by
  unfold prefetch TermSource.termsOf
  rw [checked, ← wanted, if_neg (mt List.isEmpty_iff.mp wants), wrapped_bind, bind_assoc]
  rfl

end Prefetch

end Lookup

end Termbase
