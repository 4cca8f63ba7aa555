import Termbase.Proofs.Containers
import Termbase.Proofs.TermMaps
import Termbase.Term.Json

namespace Termbase

open Json

namespace LanguageMap

variable {α : Type}

theorem entries_foldl_insert {entries : List (String × α)} {map : LanguageMap α}
    (ascending : ((map.entries ++ entries).map Prod.fst).Pairwise (· < ·)) :
    (entries.foldl (fun languages entry => languages.insert entry.1 entry.2) map).entries =
      map.entries ++ entries := by
  induction entries generalizing map with
  | nil => exact (List.append_nil _).symm
  | cons entry entries ih =>
    have last : (map.insert entry.1 entry.2).entries = map.entries ++ [entry] := by
      rw [List.map_append, List.pairwise_append] at ascending
      refine placeLanguage_last fun other hother => ?_
      exact ascending.2.2 other.1 (List.mem_map_of_mem hother) entry.1 List.mem_cons_self
    rw [List.foldl_cons, ih, last, List.append_assoc]
    · rfl
    · rw [last, List.append_assoc]
      exact ascending

/-- A map's own entries, put one after the other, make the map again. -/
theorem foldl_insert_entries (map : LanguageMap α) :
    map.entries.foldl (fun languages entry => languages.insert entry.1 entry.2) empty = map :=
  eq_of_entries (entries_foldl_insert map.languages_ascending)

end LanguageMap

namespace TermMap

variable {α : Type}

/-- The types that are there with their languages. -/
def typed (map : TermMap α) : List (TermType × LanguageMap (List α)) :=
  TermType.all.filterMap fun type => (map.languages? type).map fun languages => (type, languages)

/-- A map's own types, put one after the other, make the map again. -/
theorem foldl_withLanguages_typed (map : TermMap α) :
    map.typed.foldl (fun map entry => map.withLanguages entry.1 (some entry.2)) empty = map := by
  obtain ⟨label, description, synonym⟩ := map
  cases label <;> cases description <;> cases synonym <;> rfl

/-- The object that a term map is written as if each list is written by `write`. -/
def writtenBy (write : TermType → String → List α → Value) (map : TermMap α) : Value :=
  .map (map.typed.map fun typed => (typed.1.name, .map (typed.2.entries.map fun entry =>
    (entry.1, write typed.1 entry.1 entry.2))))

theorem toValue_eq_writtenBy {item : α → Value} {map : TermMap α} :
    map.toValue item = map.writtenBy fun _ _ values => .sequence (values.map item) := by
  unfold toValue writtenBy typed
  rw [List.map_filterMap]
  simp only [Option.map_map]
  rfl

theorem readLanguage_memberChars {list : Reader (List α)} {languages : LanguageMap (List α)}
    {language : String} {chars : List Char} {values : List α} (reads : Reads list chars values) :
    Reads (readLanguage list languages) (memberChars language chars)
      (languages.insert language values) := by
  intro rest delimits
  unfold readLanguage memberChars
  rw [List.append_assoc, List.cons_append, scanText_text]
  simp only [bind, Except.bind, List.cons_append, readColon_cons, reads rest delimits,
    String.ofList_toList]
  rfl

theorem readType_memberChars {list : Reader (List α)} {map : TermMap α} {type : TermType}
    {chars : List Char} {languages : LanguageMap (List α)}
    (reads : Reads (readMembers "a map" LanguageMap.empty (readLanguage list)) chars languages) :
    Reads (readType list map) (memberChars type.name chars)
      (map.withLanguages type (some languages)) := by
  intro rest delimits
  unfold readType memberChars
  rw [List.append_assoc, List.cons_append, scanText_text]
  simp only [bind, Except.bind, String.ofList_toList, TermType.ofName?_name, List.cons_append,
    readColon_cons, reads rest delimits]
  rfl

theorem read_writtenBy {list : Reader (List α)} {write : TermType → String → List α → Value}
    {map : TermMap α}
    (reads : ∀ type language values, Reads list (write type language values).compactChars values) :
    Reads (read list) (map.writtenBy write).compactChars map := by
  unfold writtenBy
  rw [Value.compactChars_map, List.map_map]
  -- The readers put one member after the other; put the map together in the same way.
  conv_rhs => rw [← foldl_withLanguages_typed map]
  refine readMembers_mapChars fun typed _ state => readType_memberChars ?_
  rw [Value.compactChars_map, List.map_map]
  conv_rhs => rw [← typed.2.foldl_insert_entries]
  exact readMembers_mapChars fun entry _ state => readLanguage_memberChars (reads _ _ _)

end TermMap

/-- The texts of a language as an array or, if there is just one and it is to stand bare, as a
string. -/
def textsValue (bare : Bool) (texts : List String) : Value :=
  match bare, texts with
  | true, [text] => .text text
  | _, _ => .sequence (texts.map .text)

theorem textItems?_map_text {texts : List String} :
    textItems? (texts.map .text) = some texts := by
  induction texts with
  | nil => rfl
  | cons text texts ih =>
    rw [List.map_cons, textItems?, ih]
    rfl

theorem textsOfValue?_textsValue {bare : Bool} {texts : List String} :
    textsOfValue? (textsValue bare texts) = some texts := by
  unfold textsValue
  split
  · rfl
  · exact textItems?_map_text

theorem readValue_textsValue {bare : Bool} {texts : List String} :
    Reads (readValue (depthLimit - 2)) (textsValue bare texts).compactChars
      (textsValue bare texts) := by
  unfold textsValue
  split
  next text =>
    rw [Value.compactChars_text]
    exact readValue_textChars
  next =>
    rw [Value.compactChars_sequence]
    refine readValue_sequenceChars (fun item hitem => ?_) fun item hitem => ?_
    all_goals
      obtain ⟨text, _, rfl⟩ := List.mem_map.mp hitem
      rw [Value.compactChars_text]
    · exact startsItem_textChars
    · exact readValue_textChars

theorem readTexts_textsValue {bare : Bool} {texts : List String} :
    Reads readTexts (textsValue bare texts).compactChars texts := by
  intro rest delimits
  unfold readTexts
  rw [readValue_textsValue rest delimits]
  simp only [textsOfValue?_textsValue]

theorem readIds_sequence {ids : List RowId} :
    Reads (readList readSigned64)
      (Value.sequence (ids.map fun id => Value.integer id.toInt)).compactChars ids := by
  rw [Value.compactChars_sequence, List.map_map]
  refine readList_sequenceChars (fun id _ => ?_) fun id _ => ?_
  all_goals
    rw [Function.comp_apply, Value.compactChars_integer]
  · exact startsItem_integerChars
  · exact readSigned64_integerChars

/-- The object that terms are written as if `bare` tells where a text may stand for its array. -/
def TermSet.writtenWith (bare : TermType → String → Bool) (terms : TermSet) : Value :=
  terms.writtenBy fun type language => textsValue (bare type language)

/-- Terms and ids come back from JSON as they are, the terms also if languages with one text have
it in place of an array. -/
theorem terms_and_ids_survive_json :
    (∀ (terms : TermSet) (bare : TermType → String → Bool),
      TermSet.ofJson (terms.writtenWith bare).compact = .ok terms) ∧
    (∀ terms : TermSet, TermSet.ofJson terms.toJson = .ok terms) ∧
    ∀ ids : TermIds, TermIds.ofJson ids.toJson = .ok ids := by
  have written (terms : TermSet) (bare : TermType → String → Bool) :
      TermSet.ofJson (terms.writtenWith bare).compact = .ok terms :=
    readAll_of_reads (TermMap.read_writtenBy fun _ _ _ => readTexts_textsValue)
  refine ⟨written, fun terms => ?_, fun ids => ?_⟩
  · unfold TermSet.toJson TermSet.toValue
    rw [TermMap.toValue_eq_writtenBy]
    exact written terms fun _ _ => false
  · unfold TermIds.toJson TermIds.toValue
    rw [TermMap.toValue_eq_writtenBy]
    exact readAll_of_reads (TermMap.read_writtenBy fun _ _ _ => readIds_sequence)

end Termbase
