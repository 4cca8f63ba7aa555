import Termbase.Proofs.Facts

namespace Termbase

theorem RecordIds.idOf_eq {level : Level} {ids : RecordIds level} {record : level.Record}
    {id : RowId} (h : ids.entries.lookup record = some id) : ids.idOf record = .ok id := by
  unfold idOf
  rw [h]

theorem TypeCodes.codeOf_eq {codes : TypeCodes} {type : TermType} {code : RowId}
    (h : codes.get? type = some code) : codes.codeOf type = .ok code := by
  unfold codeOf
  rw [h]

theorem TypeCodes.get?_of_codeOf {codes : TypeCodes} {type : TermType} {code : RowId}
    (h : codes.codeOf type = .ok code) : codes.get? type = some code := by
  unfold codeOf at h
  split at h
  next found hfound => rw [hfound, Except.ok.inj h]
  next => simp at h

theorem TypeCodes.codeOf_error {codes : TypeCodes} {type : TermType} {failure : Failure}
    (h : codes.codeOf type = .error failure) :
    codes.get? type = none ∧ failure = .missingTypeCode type := by
  unfold codeOf at h
  split at h
  next => simp at h
  next hnone => exact ⟨hnone, (Except.error.inj h).symm⟩

theorem textInLangOf_eq {texts : RecordIds .text} {language text : String} {id : RowId}
    (h : texts.entries.lookup (Text.kept text) = some id) :
    textInLangOf texts language text = .ok ⟨id, language⟩ := by
  unfold textInLangOf
  rw [RecordIds.idOf_eq h]
  rfl

/-- The record of a fact, by the ids that are known. -/
def LowerIds.Gives (lower : LowerIds) (codes : TypeCodes) (fact : Fact) (record : TermInLang) :
    Prop :=
  ∃ textId, lower.texts.entries.lookup fact.text = some textId ∧
    lower.textsInLang.entries.lookup (⟨textId, fact.language⟩ : TextInLang) =
      some record.textInLangId ∧ codes.get? fact.type = some record.typeCode

theorem LowerIds.Gives.termOf {lower : LowerIds} {codes : TypeCodes} {type : TermType}
    {language text : String} {record : TermInLang}
    (h : lower.Gives codes ⟨type, language, Text.kept text⟩ record) :
    lower.termOf codes type language text = .ok record := by
  obtain ⟨textId, htext, htextInLang, hcode⟩ := h
  have hrecord := @textInLangOf_eq _ language _ _ htext
  have hid : lower.textsInLang.idOf (⟨textId, language⟩ : TextInLang) = .ok record.textInLangId :=
    RecordIds.idOf_eq htextInLang
  have hcode := TypeCodes.codeOf_eq hcode
  unfold LowerIds.termOf
  rw [hrecord]
  change (lower.textsInLang.idOf ⟨textId, language⟩ >>= _) = _
  rw [hid]
  change (codes.codeOf type >>= _) = _
  rw [hcode]
  rfl

namespace TermSet

variable {terms : TermSet}

theorem fact_mem_of_occurrence {term : TermType × String × String}
    (h : term ∈ terms.occurrences) :
    (⟨term.1, term.2.1, Text.kept term.2.2⟩ : Fact) ∈ terms.facts :=
  List.mem_map.mpr ⟨term, h, rfl⟩

/-- Working out something for each text is the same as for each fact. -/
theorem occurrences_mapM {α : Type} {f : TermType → String → String → Except Failure α}
    {g : Fact → α} (h : ∀ term ∈ terms.occurrences,
      f term.1 term.2.1 term.2.2 = .ok (g ⟨term.1, term.2.1, Text.kept term.2.2⟩)) :
    terms.occurrences.mapM (fun term => f term.1 term.2.1 term.2.2) =
      .ok (terms.facts.map g) := by
  rw [mapM_ok (g := fun term => g ⟨term.1, term.2.1, Text.kept term.2.2⟩) h, facts, List.map_map]
  rfl

theorem kept_values (terms : TermSet) :
    terms.values.map Text.kept = terms.facts.map Fact.text := by
  unfold TermMap.values
  rw [facts_eq_flatMap, List.map_flatMap, List.map_flatMap]
  refine congrArg (terms.entries.flatMap ·) (funext fun entry => ?_)
  rw [List.map_map]
  rfl

section Records

variable {recordOf : TermType → String → String → Except Failure TermInLang}
  {record : Fact → TermInLang}

theorem shapedIds_eq {acquired : RecordIds .termInLang} {idOf : Fact → RowId}
    (records : ∀ entry ∈ terms.entries, ∀ text ∈ entry.2.2,
      recordOf entry.1 entry.2.1 text = .ok (record ⟨entry.1, entry.2.1, Text.kept text⟩))
    (ids : ∀ fact ∈ terms.facts, acquired.idOf (record fact) = .ok (idOf fact)) :
    shapedIds terms acquired recordOf = .ok (terms.withIds idOf) := by
  have lists : ∀ entry ∈ terms.entries,
      (entry.2.2.mapM fun text => do acquired.idOf (← recordOf entry.1 entry.2.1 text)) =
        .ok (entry.2.2.map fun text => idOf ⟨entry.1, entry.2.1, Text.kept text⟩) := by
    intro entry hentry
    refine mapM_ok fun text htext => ?_
    rw [records entry hentry text htext]
    exact ids _ (mem_facts_of_entry hentry htext)
  unfold shapedIds withIds idEntries
  rw [List.foldl_map]
  refine foldlM_ok (fun ids entry hentry => ?_) TermMap.empty
  change (entry.2.2.mapM _ >>= _) = _
  rw [lists entry hentry]
  rfl

def forcedIds (record : Fact → TermInLang) (idOf : Fact → RowId) (lost : List RowId)
    (facts : List Fact) : ForcedIds .termInLang :=
  facts.foldl (fun forced fact =>
    if idOf fact ∈ lost then forced.insert (record fact) (idOf fact) else forced) ForcedIds.empty

theorem forcedIds_eq {idOf : Fact → RowId} {lost : List RowId}
    (records : ∀ entry ∈ terms.entries, ∀ text ∈ entry.2.2,
      recordOf entry.1 entry.2.1 text = .ok (record ⟨entry.1, entry.2.1, Text.kept text⟩)) :
    (⟨terms.withIds idOf, lost⟩ : Restoration).forcedIds terms recordOf =
      .ok (forcedIds record idOf lost terms.facts) := by
  unfold Restoration.forcedIds forcedIds
  rw [facts_eq_flatMap, List.foldl_flatMap]
  refine foldlM_ok (fun forced entry hentry => ?_) ForcedIds.empty
  simp only
  rw [get?_withIds hentry, Option.getD_some, ← List.map_prod_left_eq_zip, List.foldl_map,
    List.foldlM_map]
  refine foldlM_ok (fun forced text htext => ?_) forced
  simp only
  split
  next =>
    rw [records entry hentry text htext]
    rfl
  next => rfl

theorem restorations_eq {restoration : Option ((Fact → RowId) × List RowId)}
    (records : ∀ entry ∈ terms.entries, ∀ text ∈ entry.2.2,
      recordOf entry.1 entry.2.1 text = .ok (record ⟨entry.1, entry.2.1, Text.kept text⟩)) :
    (restoration.map fun given => (⟨terms.withIds given.1, given.2⟩ : Restoration)).mapM
        (fun restoration => restoration.forcedIds terms recordOf) =
      .ok (restoration.map fun given => forcedIds record given.1 given.2 terms.facts) := by
  cases restoration with
  | none => rfl
  | some given =>
    have hgiven := @forcedIds_eq terms recordOf record given.1 given.2 records
    change some <$> (⟨terms.withIds given.1, given.2⟩ : Restoration).forcedIds terms recordOf = _
    rw [hgiven]
    rfl

theorem mem_forcedIds {idOf : Fact → RowId} {lost : List RowId} {facts : List Fact}
    {entry : TermInLang × RowId} (h : entry ∈ (forcedIds record idOf lost facts).entries) :
    ∃ fact ∈ facts, idOf fact ∈ lost ∧ entry = (record fact, idOf fact) := by
  suffices general : ∀ (facts : List Fact) (start : ForcedIds .termInLang),
      entry ∈ (facts.foldl (fun forced fact =>
        if idOf fact ∈ lost then forced.insert (record fact) (idOf fact) else forced)
          start).entries →
      entry ∈ start.entries ∨
        ∃ fact ∈ facts, idOf fact ∈ lost ∧ entry = (record fact, idOf fact) by
    rcases general facts ForcedIds.empty h with h | h
    · simp [ForcedIds.empty] at h
    · exact h
  clear h
  intro facts
  induction facts with
  | nil => exact fun _ h => Or.inl h
  | cons fact facts ih =>
    intro start h
    rw [List.foldl_cons] at h
    rcases ih _ h with h | ⟨other, hother, hlost⟩
    · split at h
      next hlost =>
        rcases mem_assign h with h | h
        · exact Or.inr ⟨fact, List.mem_cons_self, hlost, h⟩
        · exact Or.inl h
      next => exact Or.inl h
    · exact Or.inr ⟨other, List.mem_cons_of_mem _ hother, hlost⟩

theorem record_mem_forcedIds {idOf : Fact → RowId} {lost : List RowId} {facts : List Fact}
    {fact : Fact} (hfact : fact ∈ facts) (hlost : idOf fact ∈ lost) :
    record fact ∈ (forcedIds record idOf lost facts).entries.map Prod.fst := by
  suffices general : ∀ (facts : List Fact) (start : ForcedIds .termInLang),
      fact ∈ facts ∨ record fact ∈ start.entries.map Prod.fst →
      record fact ∈ (facts.foldl (fun forced fact =>
        if idOf fact ∈ lost then forced.insert (record fact) (idOf fact) else forced)
          start).entries.map Prod.fst by
    exact general facts ForcedIds.empty (Or.inl hfact)
  clear hfact
  intro facts
  induction facts with
  | nil => simp
  | cons other facts ih =>
    intro start h
    rw [List.foldl_cons]
    refine ih _ ?_
    rcases h with h | h
    · rcases List.mem_cons.mp h with rfl | h
      · rw [if_pos hlost]
        exact Or.inr (mem_assign_keys.mpr (Or.inl rfl))
      · exact Or.inl h
    · right
      split
      next => exact mem_assign_keys.mpr (Or.inr h)
      next => exact h

end Records

end TermSet

end Termbase
