import Termbase.Proofs.Collating
import Termbase.Proofs.TermMaps

namespace Termbase

namespace TermMap

variable {α : Type} {map other : TermMap α}

/-- The list of a type and language, with an empty one for none. -/
def listAt (map : TermMap α) (place : TermType × String) : List α :=
  (map.get? place.1 place.2).getD []

/-- The order of types and, within a type, of the bytes of languages. -/
def Collated (a b : TermType × String) : Prop :=
  a.1.rank < b.1.rank ∨ a.1 = b.1 ∧ utf8Bytes a.2 < utf8Bytes b.2

theorem collated_irrefl (place : TermType × String) : ¬Collated place place := by
  rintro (ranks | ⟨_, bytes⟩)
  · exact Nat.lt_irrefl _ ranks
  · exact List.lt_irrefl _ bytes

/-- The entries are the lists of a map, each once, in the order of their types and languages. -/
structure Enumerates (map : TermMap α) (entries : List (TermType × String × List α)) : Prop where
  mem_iff : ∀ type language list,
    (type, language, list) ∈ entries ↔ map.get? type language = some list
  nodup : (entries.map fun entry => (entry.1, entry.2.1)).Nodup
  ordered : (entries.map fun entry => (entry.1, entry.2.1)).Pairwise Collated

theorem enumerates_entries (map : TermMap α) : map.Enumerates map.entries := by
  have ordered : (map.entries.map fun entry => (entry.1, entry.2.1)).Pairwise Collated :=
    List.pairwise_map.mpr (map.entries_pairwise.imp fun before =>
      before.imp_right (And.imp_right Text.utf8Bytes_lt_iff.mpr))
  refine ⟨fun _ _ _ => mem_entries_iff_get?, ordered.imp fun {a b} before same => ?_, ordered⟩
  rw [same] at before
  exact collated_irrefl b before

theorem values_eq_nil_iff : map.values = [] ↔ map.isEmpty = true := by
  unfold values isEmpty
  rw [List.flatMap_eq_nil_iff, List.all_eq_true]
  exact forall₂_congr fun _ _ => List.isEmpty_iff.symm

/-- No type is there without a language, and no language without an element. -/
structure Canonical (map : TermMap α) : Prop where
  populated : map.Populated
  filled : ∀ entry ∈ map.entries, entry.2.2 ≠ []

namespace Canonical

theorem get?_ne_nil (canonical : map.Canonical) (type : TermType) (language : String) :
    map.get? type language ≠ some [] :=
  fun h => canonical.filled _ (mem_entries_iff_get?.mpr h) rfl

theorem get?_eq (canonical : map.Canonical) (type : TermType) (language : String) :
    map.get? type language =
      if map.listAt (type, language) = [] then none else some (map.listAt (type, language)) := by
  have filled := canonical.get?_ne_nil type language
  unfold listAt
  cases hget : map.get? type language with
  | none => rfl
  | some list =>
    have nonempty : list ≠ [] := fun h => filled (h ▸ hget)
    rw [Option.getD_some, if_neg nonempty]

theorem eq_iff (canonical : map.Canonical) (otherCanonical : other.Canonical) :
    map = other ↔ ∀ place, map.listAt place = other.listAt place := by
  refine ⟨fun same _ => by rw [same], fun same => ?_⟩
  refine canonical.populated.eq_of_get? otherCanonical.populated fun type language => ?_
  rw [canonical.get?_eq, otherCanonical.get?_eq, same]

theorem empty : (TermMap.empty : TermMap α).Canonical := ⟨populated_empty, by simp [entries_empty]⟩

theorem set (canonical : map.Canonical) (type : TermType) (language : String) (list : List α) :
    (map.set type language list).Canonical := by
  refine ⟨canonical.populated.set type language list, ?_⟩
  rintro ⟨other, otherLanguage, _⟩ hentry rfl
  have nothing := mem_entries_iff_get?.mp hentry
  rw [get?_set_eq] at nothing
  split at nothing
  next =>
    split at nothing
    next => cases nothing
    next nonempty => exact nonempty (Option.some.inj nothing)
  next => exact canonical.get?_ne_nil other otherLanguage nothing

/-- There is nothing in a map if no type is there. -/
theorem isEmpty_iff_types (canonical : map.Canonical) :
    map.isEmpty = true ↔ map.types = [] := by
  rw [isEmpty_iff, List.eq_nil_iff_forall_not_mem]
  constructor
  · intro nothing type htype
    obtain ⟨language, list, hlist⟩ := canonical.populated.mem_types_iff.mp htype
    rw [nothing type language list hlist] at hlist
    exact canonical.get?_ne_nil type language hlist
  · intro absent type language list hlist
    exact absurd (mem_types_of_get? hlist) (absent type)

end Canonical

end TermMap

/-- A change to the texts of one type and language. -/
inductive TermEdit where
  | append (type : TermType) (language text : String)
  | set (type : TermType) (language : String) (texts : List String)
  | withLabel (language text : String)
  | withDescription (language text : String)
  | withSynonym (language text : String)

namespace TermEdit

def apply : TermEdit → TermSet → TermSet
  | append type language text, terms => TermMap.append terms type language text
  | set type language texts, terms => TermMap.set terms type language texts
  | withLabel language text, terms => terms.withLabel language text
  | withDescription language text, terms => terms.withDescription language text
  | withSynonym language text, terms => terms.withSynonym language text

/-- The type and language whose texts are changed. -/
def place : TermEdit → TermType × String
  | append type language _ => (type, language)
  | set type language _ => (type, language)
  | withLabel language _ => (.label, language)
  | withDescription language _ => (.description, language)
  | withSynonym language _ => (.synonym, language)

/-- What becomes of the texts at the place of the edit. -/
def revise : TermEdit → List String → List String
  | append _ _ text, texts => texts ++ [text]
  | set _ _ others, _ => others
  | withLabel _ text, _ => [text]
  | withDescription _ text, _ => [text]
  | withSynonym _ text, texts => texts ++ [text]

/-- The terms after edits, from the first to the last. -/
def applyAll (edits : List TermEdit) (terms : TermSet) : TermSet :=
  edits.foldl (fun terms edit => edit.apply terms) terms

/-- The terms that edits make of none. -/
def build (edits : List TermEdit) : TermSet := applyAll edits TermMap.empty

/-- What becomes of the texts at a place if only the edits of the place are made. -/
def replay (place : TermType × String) (edits : List TermEdit) (texts : List String) :
    List String :=
  (edits.filter fun edit => edit.place = place).foldl (fun texts edit => edit.revise texts) texts

/-- Each edit gives its place the revised texts. -/
theorem apply_eq_set (edit : TermEdit) (terms : TermSet) :
    edit.apply terms =
      terms.set edit.place.1 edit.place.2 (edit.revise (terms.listAt edit.place)) := by
  cases edit with
  | append type language text => exact TermMap.append_eq_set terms type language text
  | set type language texts => rfl
  | withLabel language text => rfl
  | withDescription language text => rfl
  | withSynonym language text => exact TermMap.append_eq_set terms .synonym language text

theorem listAt_apply (edit : TermEdit) (terms : TermSet) (place : TermType × String) :
    (edit.apply terms).listAt place =
      if edit.place = place then edit.revise (terms.listAt place) else terms.listAt place := by
  rw [apply_eq_set]
  unfold TermMap.listAt
  rw [TermMap.get?_set]
  by_cases here : edit.place = place
  · rw [if_pos here, here, if_pos ⟨rfl, rfl⟩]
  · rw [if_neg here, if_neg fun same => here (Prod.ext same.1.symm same.2.symm)]

/-- Edits of different places can be made in either order. -/
theorem apply_comm {first second : TermEdit} (different : first.place ≠ second.place)
    (terms : TermSet) : second.apply (first.apply terms) = first.apply (second.apply terms) := by
  have left := listAt_apply first terms second.place
  have right := listAt_apply second terms first.place
  rw [if_neg different] at left
  rw [if_neg different.symm] at right
  rw [apply_eq_set second, apply_eq_set first (second.apply terms), left, right,
    apply_eq_set first, apply_eq_set second]
  exact TermMap.set_comm terms fun same => different (Prod.ext same.1 same.2)

theorem apply_canonical (edit : TermEdit) {terms : TermSet} (canonical : terms.Canonical) :
    (edit.apply terms).Canonical := by
  rw [apply_eq_set]
  exact canonical.set _ _ _

theorem applyAll_canonical (edits : List TermEdit) {terms : TermSet}
    (canonical : terms.Canonical) : (applyAll edits terms).Canonical := by
  induction edits generalizing terms with
  | nil => exact canonical
  | cons edit edits ih => exact ih (edit.apply_canonical canonical)

/-- The edits of other places do not matter for the texts at a place. -/
theorem listAt_applyAll (edits : List TermEdit) (terms : TermSet) (place : TermType × String) :
    (applyAll edits terms).listAt place = replay place edits (terms.listAt place) := by
  induction edits generalizing terms with
  | nil => rfl
  | cons edit edits ih =>
    have step : applyAll (edit :: edits) terms = applyAll edits (edit.apply terms) := rfl
    rw [step, ih, listAt_apply]
    unfold replay
    by_cases here : edit.place = place
    · rw [if_pos here, List.filter_cons_of_pos (by simpa using here), List.foldl_cons]
    · rw [if_neg here, List.filter_cons_of_neg (by simpa using here)]

theorem build_canonical (edits : List TermEdit) : (build edits).Canonical :=
  applyAll_canonical edits TermMap.Canonical.empty

theorem listAt_build (edits : List TermEdit) (place : TermType × String) :
    (build edits).listAt place = replay place edits [] := by
  have nothing : (TermMap.empty : TermSet).listAt place = [] := by
    rw [TermMap.listAt, TermMap.get?_empty, Option.getD_none]
  rw [build, listAt_applyAll, nothing]

/-- Whatever edits are made of an empty term set, no type is left without a language and no language
without a text, so that there are no texts just if no type is there. The texts of a type and
language are those that its own edits leave, and term sets are the same if these are. Edits of
different places can be made in either order. The entries are the texts of each place that has
some, in the order of the types and of the bytes of the languages. -/
theorem edited_terms_canonical (edits : List TermEdit) :
    (build edits).Canonical ∧
    ((build edits).isEmpty = true ↔ (build edits).types = []) ∧
    ((build edits).isEmpty = true ↔ (build edits).values = []) ∧
    (∀ type language, (build edits).get? type language =
      if replay (type, language) edits [] = [] then none
      else some (replay (type, language) edits [])) ∧
    (∀ others, build edits = build others ↔
      ∀ place, replay place edits [] = replay place others []) ∧
    (∀ first second : TermEdit, first.place ≠ second.place → ∀ terms,
      second.apply (first.apply terms) = first.apply (second.apply terms)) ∧
    (build edits).Enumerates (build edits).entries := by
  have canonical := build_canonical edits
  refine ⟨canonical, canonical.isEmpty_iff_types, TermMap.values_eq_nil_iff.symm,
    fun type language => ?_, fun others => ?_, fun _ _ => apply_comm,
    TermMap.enumerates_entries _⟩
  · rw [canonical.get?_eq, listAt_build]
  · rw [canonical.eq_iff (build_canonical others)]
    simp only [listAt_build]

/-- Names of a cat in two languages, one of which is given up again. -/
def catNames : List TermEdit :=
  [.append .label "de" "Katze", .withLabel "en" "cat", .withSynonym "en" "kitty",
    .withSynonym "en" "puss", .withLabel "en" "house cat", .set .label "de" []]

theorem edited_terms_canonical_cat :
    (withSynonym "de" "Mieze").place ≠ (withLabel "de" "Katze").place ∧
      (build catNames).get? .label "de" = none ∧
      (build catNames).get? .label "en" = some ["house cat"] ∧
      (build catNames).get? .synonym "en" = some ["kitty", "puss"] ∧
      (withLabel "de" "Katze").apply ((withSynonym "de" "Mieze").apply (build catNames)) =
        (withSynonym "de" "Mieze").apply ((withLabel "de" "Katze").apply (build catNames)) := by
  have different : (withSynonym "de" "Mieze").place ≠ (withLabel "de" "Katze").place := by decide
  obtain ⟨_, _, _, texts, _, swaps, _⟩ := edited_terms_canonical catNames
  refine ⟨different, (texts _ _).trans ?_, (texts _ _).trans ?_, (texts _ _).trans ?_,
    swaps _ _ different _⟩ <;> decide

end TermEdit

end Termbase
