import Termbase.Proofs.Prefetching
import Termbase.Proofs.Spelling

namespace Termbase

section Keys

variable {κ ι α : Type} {key : κ → ι}

theorem mem_map_keys (inj : Function.Injective key) {entries : List (κ × α)} {k : κ} {value : α} :
    (key k, value) ∈ entries.map (Prod.map key id) ↔ (k, value) ∈ entries :=
  @List.mem_map_of_injective _ _ _ (inj.prodMap Function.injective_id) (k, value) entries

variable [DecidableEq κ] [DecidableEq ι]

theorem lookup_map_keys (inj : Function.Injective key) (entries : List (κ × α)) (k : κ) :
    (entries.map (Prod.map key id)).lookup (key k) = entries.lookup k := by
  induction entries with
  | nil => rfl
  | cons entry entries ih =>
    rw [List.map_cons, lookup_cons_eq, lookup_cons_eq, ih]
    exact if_congr inj.eq_iff rfl rfl

theorem assign_map_keys (inj : Function.Injective key) (entries : List (κ × α)) (k : κ)
    (value : α) :
    assign (key k) value (entries.map (Prod.map key id)) =
      (assign k value entries).map (Prod.map key id) := by
  induction entries with
  | nil => rfl
  | cons entry entries ih =>
    rw [List.map_cons]
    unfold assign
    rw [ih]
    by_cases same : entry.1 = k
    · have keys : (Prod.map key id entry).1 = key k := congrArg key same
      rw [if_pos same, if_pos keys]
      rfl
    · have keys : (Prod.map key id entry).1 ≠ key k := fun h => same (inj h)
      rw [if_neg same, if_neg keys]
      rfl

end Keys

/-- A lookup that knows the entities by keys of them only. -/
structure KeyedLookup (κ : Type) where
  kind : EntityKind
  buffer : List (κ × TermSet)
  fetched : List (κ × TermType × String)

namespace KeyedLookup

variable {κ σ : Type} [DecidableEq κ] (key : EntityId → κ)

def lacks (lookup : KeyedLookup κ) (types : List TermType) (languages : List String)
    (entity : EntityId) : Bool :=
  types.any fun type => languages.any fun language =>
    (key entity, type, language) ∉ lookup.fetched

def keep (lookup : KeyedLookup κ) (entity : EntityId) (type : TermType) (language : String)
    (texts : List String) : KeyedLookup κ :=
  let terms := (lookup.buffer.lookup (key entity)).getD TermMap.empty
  { lookup with
    buffer := assign (key entity) (terms.set type language texts) lookup.buffer
    fetched :=
      if (key entity, type, language) ∈ lookup.fetched then lookup.fetched
      else (key entity, type, language) :: lookup.fetched }

def keepAll (lookup : KeyedLookup κ) (resolved : List (EntityId × TermSet))
    (types : List TermType) (languages : List String) (entity : EntityId) : KeyedLookup κ :=
  let terms := (resolved.lookup entity).getD TermMap.empty
  types.foldl (fun lookup type =>
    languages.foldl (fun lookup language =>
      lookup.keep key entity type language ((terms.get? type language).getD [])) lookup) lookup

def prefetch (source : TermSource σ) (lookup : KeyedLookup κ) (entities : List EntityId)
    (types : List TermType) (languages : List String) : Action σ (KeyedLookup κ) := do
  let _ ← Action.ofResult (entities.forM (Lookup.ofKind lookup.kind).checkKind)
  let wanted := ascending (entities.filter (lookup.lacks key types languages))
  if wanted.isEmpty then return lookup
  else do
    let groups ← Lookup.wrapped (source.linkedIdsOf wanted)
    let resolved ← Lookup.wrapped (source.resolveGroups groups ⟨types, languages⟩)
    return wanted.foldl
      (fun lookup entity => lookup.keepAll key resolved types languages entity) lookup

def texts (lookup : KeyedLookup κ) (entity : EntityId) (type : TermType) (language : String) :
    List String :=
  ((lookup.buffer.lookup (key entity)).bind fun terms => terms.get? type language).getD []

def read (lookup : KeyedLookup κ) (entity : EntityId) (type : TermType) (language : String) :
    Except Failure Reading := do
  (Lookup.ofKind lookup.kind).checkKind entity
  if (key entity, type, language) ∉ lookup.fetched then return .notPrefetched
  else
    match lookup.texts key entity type language with
    | [] => return .absent
    | text :: _ => return .found text

def readSynonyms (lookup : KeyedLookup κ) (entity : EntityId) (language : String) :
    Except Failure (Option (List String)) := do
  (Lookup.ofKind lookup.kind).checkKind entity
  if (key entity, TermType.synonym, language) ∉ lookup.fetched then return none
  else return some (lookup.texts key entity .synonym language)

def perform (call : PrefetchCall σ) (lookup : KeyedLookup κ) : Except Failure (KeyedLookup κ) :=
  ((lookup.prefetch key call.source call.entities call.types call.languages).run call.state).1

/-- The lookup after calls, the latest first. -/
def after (kind : EntityKind) : List (PrefetchCall σ) → KeyedLookup κ
  | [] => ⟨kind, [], []⟩
  | call :: earlier =>
    match (after kind earlier).perform key call with
    | .ok next => next
    | .error _ => after kind earlier

end KeyedLookup

namespace Lookup

/-- The lookup with keys in place of the entities. -/
def keyed {κ : Type} (key : EntityId → κ) (lookup : Lookup) : KeyedLookup κ where
  kind := lookup.kind
  buffer := lookup.buffer.map (Prod.map key id)
  fetched := lookup.fetched.map (Prod.map key id)

variable {κ σ : Type} [DecidableEq κ] {key : EntityId → κ} (inj : Function.Injective key)
  (lookup : Lookup)

include inj

theorem lacks_keyed (types : List TermType) (languages : List String) :
    (lookup.keyed key).lacks key types languages = lookup.lacks types languages := by
  funext entity
  unfold KeyedLookup.lacks lacks keyed
  simp only [mem_map_keys inj]

theorem keep_keyed (entity : EntityId) (type : TermType) (language : String)
    (texts : List String) : (lookup.keyed key).keep key entity type language texts =
      (lookup.keep entity type language texts).keyed key := by
  unfold KeyedLookup.keep keep noteFetched keyed
  simp only [lookup_map_keys inj, assign_map_keys inj, mem_map_keys inj, KeyedLookup.mk.injEq,
    true_and]
  split <;> rfl

theorem keepAll_keyed (resolved : List (EntityId × TermSet)) (types : List TermType)
    (languages : List String) (entity : EntityId) :
    (lookup.keyed key).keepAll key resolved types languages entity =
      (lookup.keepAll resolved types languages entity).keyed key := by
  unfold KeyedLookup.keepAll keepAll
  refine List.foldl_hom (keyed key) fun lookup type => ?_
  exact List.foldl_hom (keyed key) fun lookup language => keep_keyed inj lookup _ _ _ _

theorem prefetch_keyed (source : TermSource σ) (entities : List EntityId) (types : List TermType)
    (languages : List String) :
    (lookup.keyed key).prefetch key source entities types languages =
      keyed key <$> lookup.prefetch source entities types languages := by
  unfold KeyedLookup.prefetch prefetch
  rw [lacks_keyed inj, map_bind]
  refine congrArg _ (funext fun _ => ?_)
  dsimp only
  split
  next => rfl
  next =>
    simp only [map_bind, map_pure]
    refine congrArg _ (funext fun groups => congrArg _ (funext fun resolved => congrArg pure ?_))
    exact List.foldl_hom (keyed key) fun lookup entity => keepAll_keyed inj lookup _ _ _ _

theorem read_keyed (entity : EntityId) (type : TermType) (language : String) :
    (lookup.keyed key).read key entity type language = lookup.read entity type language := by
  unfold KeyedLookup.read read KeyedLookup.texts texts keyed
  simp only [lookup_map_keys inj, mem_map_keys inj]
  rfl

theorem readSynonyms_keyed (entity : EntityId) (language : String) :
    (lookup.keyed key).readSynonyms key entity language =
      lookup.readSynonyms entity language := by
  unfold KeyedLookup.readSynonyms readSynonyms KeyedLookup.texts texts keyed
  simp only [lookup_map_keys inj, mem_map_keys inj]
  rfl

theorem perform_keyed (call : PrefetchCall σ) :
    (lookup.keyed key).perform key call = (call.perform lookup).map (keyed key) := by
  unfold KeyedLookup.perform PrefetchCall.perform
  rw [prefetch_keyed inj, map_eq_pure_bind, Action.run_bind]
  rcases (lookup.prefetch call.source call.entities call.types call.languages).run call.state with
    ⟨_ | _, _⟩ <;> rfl

/-- Calls leave the same lookup whether it knows the entities themselves or keys of them. -/
theorem after_keyed (kind : EntityKind) (history : List (PrefetchCall σ)) :
    KeyedLookup.after key kind history = (after kind history).keyed key := by
  induction history with
  | nil => rfl
  | cons call earlier ih =>
    unfold KeyedLookup.after
    rw [ih, perform_keyed inj, after_cons, PrefetchCall.renew]
    cases call.perform (after kind earlier) <;> rfl

end Lookup

theorem Json.Value.compact_text (s : String) :
    (text s).compact = String.ofList (textChars s) := by
  rw [compact, compactChars]

theorem Json.Value.pretty_text (s : String) :
    (text s).pretty = String.ofList (textChars s) := by
  rw [pretty, prettyChars]

theorem EntityKind.letter_injective {a b : EntityKind} (h : a.letter = b.letter) : a = b := by
  cases a <;> cases b <;> first | rfl | cases h

namespace EntityId

/-- The text with its letter in lower case. -/
def lowerText (entity : EntityId) : String :=
  String.ofList (entity.text.toList.modifyHead Char.toLower)

theorem text_injective : Function.Injective text := by
  intro a b h
  obtain ⟨letters, numbers⟩ := List.cons.inj (String.ofList_injective h)
  have kinds := EntityKind.letter_injective letters
  have values : a.number.toNat = b.number.toNat := by
    rw [← Number.ofDigitChars_digits a.number.toNat, numbers, Number.ofDigitChars_digits]
  cases a
  cases b
  simp_all only [UInt32.toNat_inj]

theorem lettered_lowerText (entity : EntityId) :
    Lettered entity.lowerText entity.kind (Number.digits entity.number.toNat) := by
  refine ⟨entity.kind.letter.toLower, ?_, Or.inr rfl⟩
  unfold lowerText text
  rw [String.toList_ofList, String.toList_ofList, List.modifyHead_cons]

theorem ofText_lowerText {entity : EntityId} (nonzero : entity.number ≠ 0) :
    ofText entity.lowerText = .ok entity :=
  ofText_eq_ok_iff.mpr (Or.inl ((lettered_lowerText entity).spelled nonzero))

theorem ofJson_textChars {entity : EntityId} (nonzero : entity.number ≠ 0) :
    ofJson (String.ofList (Json.textChars entity.text)) = .ok entity := by
  rw [ofJson_eq (Json.readAll_of_reads Json.readText_textChars), ofText_text_iff.mpr nonzero]
  rfl

/-- But for those of zero, ids are read from what is written of them, as a text with its letter in
either case and as JSON. No two ids are written alike, so a lookup that keeps its texts under
written ids goes and reads as one that keeps them under the ids themselves. -/
theorem text_identifies :
    (∀ entity : EntityId, entity.number ≠ 0 →
      ofText entity.text = .ok entity ∧ ofText entity.lowerText = .ok entity ∧
      ofJson (Json.Value.text entity.text).compact = .ok entity ∧
      ofJson (Json.Value.text entity.text).pretty = .ok entity) ∧
    (∀ a b : EntityId, a.text = b.text ↔ a = b) ∧
    ∀ (σ : Type) (kind : EntityKind) (history : List (PrefetchCall σ)),
      (∀ call : PrefetchCall σ, (KeyedLookup.after text kind history).perform text call =
        (call.perform (Lookup.after kind history)).map (Lookup.keyed text)) ∧
      (∀ entity type language,
        (KeyedLookup.after text kind history).read text entity type language =
          (Lookup.after kind history).read entity type language) ∧
      ∀ entity language,
        (KeyedLookup.after text kind history).readSynonyms text entity language =
          (Lookup.after kind history).readSynonyms entity language := by
  refine ⟨fun entity nonzero => ⟨ofText_text_iff.mpr nonzero, ofText_lowerText nonzero, ?_, ?_⟩,
    fun _ _ => text_injective.eq_iff, fun σ kind history => ?_⟩
  · rw [Json.Value.compact_text]
    exact ofJson_textChars nonzero
  · rw [Json.Value.pretty_text]
    exact ofJson_textChars nonzero
  · rw [Lookup.after_keyed text_injective]
    exact ⟨Lookup.perform_keyed text_injective _, Lookup.read_keyed text_injective _,
      Lookup.readSynonyms_keyed text_injective _⟩

theorem text_identifies_largest :
    (4294967295 : UInt32) ≠ 0 ∧ ofText "Q4294967295" = .ok ⟨.item, 4294967295⟩ ∧
      ofText "q4294967295" = .ok ⟨.item, 4294967295⟩ ∧
      ofJson "\"Q4294967295\"" = .ok ⟨.item, 4294967295⟩ := by
  have nonzero : (4294967295 : UInt32) ≠ 0 := by decide
  obtain ⟨read, lower, json, _⟩ := text_identifies.1 ⟨.item, 4294967295⟩ nonzero
  have written : text ⟨.item, 4294967295⟩ = "Q4294967295" := by decide +kernel
  have lowered : lowerText ⟨.item, 4294967295⟩ = "q4294967295" := by decide +kernel
  have serialized : (Json.Value.text "Q4294967295").compact = "\"Q4294967295\"" := by
    rw [Json.Value.compact_text]
    decide +kernel
  rw [written] at read json
  rw [lowered] at lower
  rw [serialized] at json
  exact ⟨nonzero, read, lower, json⟩

end EntityId

end Termbase
