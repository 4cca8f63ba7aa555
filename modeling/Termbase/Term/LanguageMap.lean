namespace Termbase

/-- Puts a value at its language into a list that ascends by language, in place of an earlier
value of the language. -/
def placeLanguage {α : Type} (language : String) (value : α) :
    List (String × α) → List (String × α)
  | [] => [(language, value)]
  | entry :: entries =>
    if language < entry.1 then (language, value) :: entry :: entries
    else if entry.1 < language then entry :: placeLanguage language value entries
    else (language, value) :: entries

theorem placeLanguage_keys_subset {α : Type} {language k : String} {value : α}
    {entries : List (String × α)} (h : k ∈ (placeLanguage language value entries).map Prod.fst) :
    k = language ∨ k ∈ entries.map Prod.fst := by
  induction entries with
  | nil => simpa [placeLanguage] using h
  | cons entry entries ih =>
    unfold placeLanguage at h
    split at h
    next => simpa using h
    next =>
      split at h
      next =>
        simp only [List.map_cons, List.mem_cons] at h ⊢
        rcases h with h | h
        · exact Or.inr (Or.inl h)
        · exact (ih h).imp_right Or.inr
      next => simp only [List.map_cons, List.mem_cons] at h ⊢; exact h.imp_right Or.inr

theorem placeLanguage_ascending {α : Type} {language : String} {value : α}
    {entries : List (String × α)} (h : (entries.map Prod.fst).Pairwise (· < ·)) :
    ((placeLanguage language value entries).map Prod.fst).Pairwise (· < ·) := by
  induction entries with
  | nil => simp [placeLanguage]
  | cons entry entries ih =>
    obtain ⟨above, rest⟩ := List.pairwise_cons.mp (List.map_cons ▸ h)
    unfold placeLanguage
    split
    next before =>
      refine List.pairwise_cons.mpr ⟨fun k hk => ?_, h⟩
      rcases List.mem_cons.mp (List.map_cons ▸ hk) with rfl | hk
      · exact before
      · exact String.lt_trans before (above k hk)
    next notBefore =>
      split
      next after =>
        refine List.pairwise_cons.mpr ⟨fun k hk => ?_, ih rest⟩
        rcases placeLanguage_keys_subset hk with rfl | hk
        · exact after
        · exact above k hk
      next notAfter =>
        have same : entry.1 = language :=
          String.le_antisymm (String.not_lt.mp notBefore) (String.not_lt.mp notAfter)
        refine List.pairwise_cons.mpr ⟨fun k hk => ?_, rest⟩
        simpa [← same] using above k hk

/-- Values by language, in ascending order of the languages' characters. -/
structure LanguageMap (α : Type) where
  entries : List (String × α)
  languages_ascending : (entries.map Prod.fst).Pairwise (· < ·)
  deriving DecidableEq

namespace LanguageMap

def empty {α : Type} : LanguageMap α := ⟨[], by simp⟩

def get? {α : Type} (map : LanguageMap α) (language : String) : Option α :=
  map.entries.lookup language

def insert {α : Type} (map : LanguageMap α) (language : String) (value : α) : LanguageMap α :=
  ⟨placeLanguage language value map.entries, placeLanguage_ascending map.languages_ascending⟩

def erase {α : Type} (map : LanguageMap α) (language : String) : LanguageMap α :=
  ⟨map.entries.filter fun entry => entry.1 ≠ language,
    map.languages_ascending.sublist ((List.filter_sublist).map _)⟩

end LanguageMap

end Termbase
