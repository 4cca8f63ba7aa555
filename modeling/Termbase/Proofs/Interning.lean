import Mathlib.Tactic.Choose
import Termbase.Proofs.Encoding
import Termbase.Proofs.Forcing
import Termbase.Proofs.Recording
import Termbase.Proofs.Shaping
import Termbase.Proofs.Stores

namespace Termbase

variable {codes : TypeCodes} {batch : BatchSize} {source : Source} {terms : TermSet}

/-- The first half of an interning: the kept texts and the texts in their languages. -/
def lowerPasses (codes : TypeCodes) (batch : BatchSize) (source : Source) (terms : TermSet) :
    Action Storage LowerIds := do
  let texts ← acquireIds batch source .text
    (Level.text.distinct (terms.values.map Text.kept)) none
  let records ← Action.ofResult
    (terms.occurrences.mapM fun term => textInLangOf texts term.2.1 term.2.2)
  let textsInLang ← acquireIds batch source .textInLang (Level.textInLang.distinct records) none
  let _ ← Action.ofResult (terms.types.mapM codes.codeOf)
  return ⟨texts, textsInLang⟩

/-- The first two passes, before the codes of the types are asked for. -/
def phrasePasses (batch : BatchSize) (source : Source) (terms : TermSet) :
    Action Storage LowerIds := do
  let texts ← acquireIds batch source .text
    (Level.text.distinct (terms.values.map Text.kept)) none
  let records ← Action.ofResult
    (terms.occurrences.mapM fun term => textInLangOf texts term.2.1 term.2.2)
  let textsInLang ← acquireIds batch source .textInLang (Level.textInLang.distinct records) none
  return ⟨texts, textsInLang⟩

theorem lowerPasses_eq : lowerPasses codes batch source terms = do
    let lower ← phrasePasses batch source terms
    let _ ← Action.ofResult (terms.types.mapM codes.codeOf)
    return lower := by
  unfold lowerPasses phrasePasses
  simp only [bind_assoc, pure_bind]

/-- The second half: the texts in their languages as terms of their types. -/
def topPass (codes : TypeCodes) (batch : BatchSize) (source : Source) (terms : TermSet)
    (restoration : Option Restoration) (lower : LowerIds) : Action Storage Interned := do
  let records ← Action.ofResult
    (terms.occurrences.mapM fun term => lower.termOf codes term.1 term.2.1 term.2.2)
  let forced ← Action.ofResult
    (restoration.mapM fun restoration => restoration.forcedIds terms (lower.termOf codes))
  let acquired ← acquireIds batch source .termInLang (Level.termInLang.distinct records) forced
  let ids ← Action.ofResult (shapedIds terms acquired (lower.termOf codes))
  return ⟨ids, acquired.mismatch⟩

theorem internFrom_eq (restoration : Option Restoration) :
    internFrom codes batch source terms restoration =
      lowerPasses codes batch source terms >>= topPass codes batch source terms restoration := by
  unfold internFrom lowerPasses topPass
  simp only [bind_assoc, pure_bind]

theorem internFrom_grows (source : Source) (terms : TermSet) (restoration : Option Restoration) :
    (internFrom codes batch source terms restoration).Within Storage.Grows :=
  internFrom_within .refl .trans
    (fun source level records forced _ => acquireIds_grows batch source level records forced)
    source terms restoration

theorem acquireIds_other {level other : Level} (h : other ≠ level) (records : List level.Record)
    (forced : Option (ForcedIds level)) :
    (acquireIds batch source level records forced).Within fun storage after =>
      after.primary.table other = storage.primary.table other :=
  fun _ => (acquireIds_acquires rfl).other h

theorem lowerPasses_termInLang : (lowerPasses codes batch source terms).Within
    fun storage after => after.primary.table .termInLang = storage.primary.table .termInLang := by
  have refl : ∀ storage : Storage,
      storage.primary.table .termInLang = storage.primary.table .termInLang := fun _ => rfl
  have trans : ∀ a b c : Storage,
      b.primary.table .termInLang = a.primary.table .termInLang →
      c.primary.table .termInLang = b.primary.table .termInLang →
      c.primary.table .termInLang = a.primary.table .termInLang :=
    fun _ _ _ hab hbc => hbc.trans hab
  unfold lowerPasses
  refine .bind trans (acquireIds_other (by decide) _ _) fun texts => ?_
  refine .bind trans (.ofResult refl _) fun records => ?_
  refine .bind trans (acquireIds_other (by decide) _ _) fun textsInLang => ?_
  refine .bind trans (.ofResult refl _) fun _ => ?_
  exact .pure refl _

section TopPass

variable {lower : LowerIds} {record : Fact → TermInLang}

/-- With the records of the facts known, only their ids are left to be worked out. -/
theorem topPass_eq (gives : ∀ fact ∈ terms.facts, lower.Gives codes fact (record fact))
    (restoration : Option ((Fact → RowId) × List RowId)) :
    topPass codes batch source terms
        (restoration.map fun given => ⟨terms.withIds given.1, given.2⟩) lower =
      (do
        let acquired ← acquireIds batch source .termInLang
          (Level.termInLang.distinct (terms.facts.map record))
          (restoration.map fun given => TermSet.forcedIds record given.1 given.2 terms.facts)
        let ids ← Action.ofResult (shapedIds terms acquired (lower.termOf codes))
        return ⟨ids, acquired.mismatch⟩) := by
  have recordOf : ∀ entry ∈ terms.entries, ∀ text ∈ entry.2.2,
      lower.termOf codes entry.1 entry.2.1 text =
        .ok (record ⟨entry.1, entry.2.1, Text.kept text⟩) :=
    fun entry hentry text htext => (gives _ (TermSet.mem_facts_of_entry hentry htext)).termOf
  have records := @TermSet.occurrences_mapM terms _ (lower.termOf codes) record fun term hterm =>
    (gives _ (TermSet.fact_mem_of_occurrence hterm)).termOf
  have forced := @TermSet.restorations_eq terms _ record restoration recordOf
  unfold topPass
  rw [records, forced]
  rfl

theorem shapedIds_of_gives {acquired : RecordIds .termInLang} {idOf : Fact → RowId}
    (gives : ∀ fact ∈ terms.facts, lower.Gives codes fact (record fact))
    (ids : ∀ fact ∈ terms.facts, acquired.entries.lookup (record fact) = some (idOf fact)) :
    shapedIds terms acquired (lower.termOf codes) = .ok (terms.withIds idOf) :=
  TermSet.shapedIds_eq
    (fun _ hentry _ htext => (gives _ (TermSet.mem_facts_of_entry hentry htext)).termOf)
    fun fact hfact => RecordIds.idOf_eq (ids fact hfact)

/-- Lost ids whose forcing fits are back on the records of their facts. -/
theorem row_of_lost {storage after : Storage} {acquired : RecordIds .termInLang}
    {previous : Fact → RowId} {lost : List RowId}
    (acquires : Acquires batch .termInLang (Level.termInLang.distinct (terms.facts.map record))
      (some (TermSet.forcedIds record previous lost terms.facts)) storage.primary storage
      (.ok acquired) after)
    (fit : acquired.mismatch = none)
    (absent : ∀ id ∈ lost, id ∉ (storage.primary.table .termInLang).ids) {fact : Fact}
    (coherent : ∀ other ∈ terms.facts, record other = record fact → previous other = previous fact)
    (hfact : fact ∈ terms.facts) (hlost : previous fact ∈ lost) :
    (previous fact, record fact) ∈ (after.primary.table .termInLang).rows := by
  obtain ⟨entry, hentry, hkey⟩ := List.mem_map.mp (TermSet.record_mem_forcedIds hfact hlost)
  obtain ⟨other, hother, _, rfl⟩ := TermSet.mem_forcedIds hentry
  have hkey : record other = record fact := hkey
  have free : ∀ entry ∈ (TermSet.forcedIds record previous lost terms.facts).entries,
      entry.2 ∉ (storage.primary.table .termInLang).ids := by
    intro entry hentry
    obtain ⟨_, _, hlost, rfl⟩ := TermSet.mem_forcedIds hentry
    exact absent _ hlost
  have listed : record other ∈ Level.termInLang.distinct (terms.facts.map record) :=
    Level.mem_distinct.mpr (List.mem_map.mpr ⟨other, hother, rfl⟩)
  rw [← coherent other hother hkey, ← hkey]
  exact acquires.forced fit (Level.distinct_nodup _ _) free hentry listed

end TopPass

namespace Ledger

variable {ledger : Ledger} {storage : Storage}

/-- The lower ids give the fact a record, and it stands for the fact. -/
def Places (ledger : Ledger) (codes : TypeCodes) (lower : LowerIds) (fact : Fact)
    (record : TermInLang) : Prop :=
  lower.Gives codes fact record ∧
    ∃ term, ledger.read .termInLang record = some term ∧ fact.At codes .termInLang term

theorem leads_acquireFacts (sound : ledger.Sound storage) {facts : List Fact} {level : Level}
    {record : Fact → level.Record} {forced : Option (ForcedIds level)}
    (placed : ∀ fact ∈ facts, ∃ meaning, ledger.read level (record fact) = some meaning ∧
      fact.At codes level meaning)
    (fits : ∀ known, forced = some known → ∀ entry ∈ known.entries,
      ledger.Agrees level entry.2 entry.1) :
    ledger.Leads facts codes storage
      (acquireIds batch source level (level.distinct (facts.map record)) forced)
      fun later ids after =>
        Acquires batch level (level.distinct (facts.map record)) forced
          (storage.database source) storage (.ok ids) after ∧
        ∃ idOf : Fact → RowId, ∀ fact ∈ facts,
          ids.entries.lookup (record fact) = some (idOf fact) ∧
            later.Knows codes fact level (idOf fact) := by
  have listed : ∀ x, x ∈ level.distinct (facts.map record) ↔ ∃ fact ∈ facts, record fact = x := by
    intro x
    rw [Level.mem_distinct, List.mem_map]
  refine leads_weaken (leads_acquireIds sound ?_ fits) fun later ids after adds h => ⟨h.1, ?_⟩
  · intro x hx meaning hread
    obtain ⟨fact, hfact, rfl⟩ := (listed x).mp hx
    obtain ⟨found, hfound, hat⟩ := placed fact hfact
    cases Option.some.inj (hfound.symm.trans hread)
    exact ⟨fact, hfact, hat⟩
  · have each : ∀ fact ∈ facts, ∃ id, ids.entries.lookup (record fact) = some id ∧
        later.Knows codes fact level id := by
      intro fact hfact
      obtain ⟨id, hid, meaning, hentry, hread⟩ := h.2 _ ((listed _).mpr ⟨fact, hfact, rfl⟩)
      obtain ⟨found, hfound, hat⟩ := placed fact hfact
      cases Option.some.inj ((read_mono adds.le hfound).symm.trans hread)
      exact ⟨id, hid, _, hentry, hat⟩
    choose! idOf hidOf using each
    exact ⟨idOf, hidOf⟩

theorem leads_lowerPasses (sound : ledger.Sound storage) :
    ledger.Leads terms.facts codes storage (lowerPasses codes batch source terms)
      fun later lower _ =>
        ∀ fact ∈ terms.facts, ∃ record, later.Places codes lower fact record := by
  unfold lowerPasses
  rw [TermSet.kept_values]
  have texts := @leads_acquireFacts codes batch source ledger storage sound terms.facts .text
    Fact.text none (fun fact _ => ⟨fact.text, rfl, rfl⟩) nofun
  refine leads_bind texts fun first texts between adds h => ?_
  obtain ⟨_, textId, htexts⟩ := h
  have records := @TermSet.occurrences_mapM terms _ (fun _ => textInLangOf texts)
    (fun fact => (⟨textId fact, fact.language⟩ : TextInLang)) fun term hterm =>
      textInLangOf_eq (htexts _ (TermSet.fact_mem_of_occurrence hterm)).1
  refine leads_ofResult_bind adds.sound fun found hfound => ?_
  cases Except.ok.inj (records.symm.trans hfound)
  have phrases := @leads_acquireFacts codes batch source first between adds.sound terms.facts
    .textInLang (fun fact => (⟨textId fact, fact.language⟩ : TextInLang)) none ?_ nofun
  · refine leads_bind phrases fun second phrases after adds' h => ?_
    obtain ⟨_, phraseId, hphrases⟩ := h
    refine leads_ofResult_bind adds'.sound fun list hlist => ?_
    refine leads_pure adds'.sound fun fact hfact => ?_
    obtain ⟨code, hcode⟩ := mapM_ok_mem hlist _ (TermSet.type_mem_of_mem_facts hfact)
    obtain ⟨hlookup, phrase, hentry, rfl⟩ := hphrases fact hfact
    have hcode := TypeCodes.get?_of_codeOf hcode
    refine ⟨⟨phraseId fact, code⟩, ⟨textId fact, (htexts fact hfact).1, hlookup, hcode⟩, ?_⟩
    exact ⟨_, Option.map_eq_some_iff.mpr ⟨_, hentry, rfl⟩, hcode, rfl, rfl⟩
  · intro fact hfact
    obtain ⟨_, text, hentry, rfl⟩ := htexts fact hfact
    exact ⟨_, Option.map_eq_some_iff.mpr ⟨_, hentry, rfl⟩, rfl⟩

/-- What comes of an interning: ids that stand for the facts. Lost ids that were to come back have
done so unless there is a mismatch. -/
structure Interns (later : Ledger) (codes : TypeCodes) (source : Source) (terms : TermSet)
    (restoration : Option ((Fact → RowId) × List RowId)) (before : Table TermInLang)
    (interned : Interned) (after : Storage) (idOf : Fact → RowId) : Prop where
  ids : interned.ids = terms.withIds idOf
  known : ∀ fact ∈ terms.facts, later.Knows codes fact .termInLang (idOf fact)
  present : source = .primary → ∀ fact ∈ terms.facts, idOf fact ∈ after.primary.termInLang.ids
  restored : ∀ previous lost, restoration = some (previous, lost) → source = .primary →
    codes.Distinct → (∀ id ∈ lost, id ∉ before.ids) → interned.mismatch = none →
    ∀ fact ∈ terms.facts, previous fact ∈ lost → idOf fact = previous fact

section TopPass

variable {lower : LowerIds} {record : Fact → TermInLang} {previous : Fact → RowId}
  {lost : List RowId}

theorem Places.fact_unique (distinct : codes.Distinct) {fact other : Fact} {row : TermInLang}
    (h : ledger.Places codes lower fact row) (h' : ledger.Places codes lower other row) :
    fact = other := by
  obtain ⟨_, term, hread, hat⟩ := h
  obtain ⟨_, term', hread', hat'⟩ := h'
  cases Option.some.inj (hread.symm.trans hread')
  exact hat.fact_unique distinct hat'

theorem agrees_forcedIds
    (placed : ∀ fact ∈ terms.facts, ledger.Places codes lower fact (record fact))
    (known : ∀ fact ∈ terms.facts, ledger.Knows codes fact .termInLang (previous fact))
    {entry : TermInLang × RowId}
    (hentry : entry ∈ (TermSet.forcedIds record previous lost terms.facts).entries) :
    ledger.Agrees .termInLang entry.2 entry.1 := by
  obtain ⟨fact, hfact, _, rfl⟩ := TermSet.mem_forcedIds hentry
  obtain ⟨meaning, hmeaning, hat⟩ := known fact hfact
  obtain ⟨term, hread, hat'⟩ := (placed fact hfact).2
  exact ⟨meaning, hmeaning, hat.unique hat' ▸ hread⟩

theorem leads_topPass (sound : ledger.Sound storage)
    (placed : ∀ fact ∈ terms.facts, ∃ record, ledger.Places codes lower fact record)
    {restoration : Option ((Fact → RowId) × List RowId)}
    (restorable : ∀ previous lost, restoration = some (previous, lost) → ∀ fact ∈ terms.facts,
      ledger.Knows codes fact .termInLang (previous fact)) :
    ledger.Leads terms.facts codes storage
      (topPass codes batch source terms
        (restoration.map fun given => ⟨terms.withIds given.1, given.2⟩) lower)
      fun later interned after => ∃ idOf, later.Interns codes source terms restoration
        storage.primary.termInLang interned after idOf := by
  have : Nonempty TermInLang := ⟨⟨0, 0⟩⟩
  choose! record placed using placed
  have gives : ∀ fact ∈ terms.facts, lower.Gives codes fact (record fact) :=
    fun fact hfact => (placed fact hfact).1
  have fits : ∀ known, (restoration.map fun given =>
      TermSet.forcedIds record given.1 given.2 terms.facts) = some known →
      ∀ entry ∈ known.entries, ledger.Agrees .termInLang entry.2 entry.1 := by
    intro known hknown entry hentry
    obtain ⟨given, hgiven, rfl⟩ := Option.map_eq_some_iff.mp hknown
    exact agrees_forcedIds placed (restorable given.1 given.2 hgiven) hentry
  rw [topPass_eq gives]
  have acquired := @leads_acquireFacts codes batch source ledger storage sound terms.facts
    .termInLang record _ (fun fact hfact => (placed fact hfact).2) fits
  refine leads_bind acquired fun later acquired after adds h => ?_
  obtain ⟨acquires, idOf, hids⟩ := h
  have shaped := shapedIds_of_gives gives fun fact hfact => (hids fact hfact).1
  refine leads_ofResult_bind adds.sound fun ids hshaped => ?_
  cases Except.ok.inj (shaped.symm.trans hshaped)
  have row : source = .primary → ∀ fact ∈ terms.facts,
      (idOf fact, record fact) ∈ (after.primary.table .termInLang).rows := by
    rintro rfl fact hfact
    have listed : record fact ∈ Level.termInLang.distinct (terms.facts.map record) :=
      Level.mem_distinct.mpr (List.mem_map.mpr ⟨fact, hfact, rfl⟩)
    rcases (acquires.lookup listed).mp (hids fact hfact).1 with h | h
    · exact adds.grows.rows .termInLang _ h
    · exact h.2
  refine leads_pure adds.sound ⟨idOf, rfl, fun fact hfact => (hids fact hfact).2, ?_, ?_⟩
  · intro hsource fact hfact
    exact Table.mem_ids.mpr ⟨_, row hsource fact hfact⟩
  · intro previous lost hgiven hsource distinct absent fit fact hfact hlost
    subst hsource
    subst hgiven
    have coherent : ∀ other ∈ terms.facts, record other = record fact →
        previous other = previous fact := by
      intro other hother hkey
      have same : other = fact :=
        (hkey ▸ placed other hother).fact_unique distinct (placed fact hfact)
      rw [same]
    have back := row_of_lost acquires fit absent coherent hfact hlost
    exact Table.id_unique (row rfl fact hfact) back

end TopPass

theorem leads_internFrom (sound : ledger.Sound storage)
    {restoration : Option ((Fact → RowId) × List RowId)}
    (restorable : ∀ previous lost, restoration = some (previous, lost) → ∀ fact ∈ terms.facts,
      ledger.Knows codes fact .termInLang (previous fact)) :
    ledger.Leads terms.facts codes storage
      (internFrom codes batch source terms
        (restoration.map fun given => ⟨terms.withIds given.1, given.2⟩))
      fun later interned after => ∃ idOf, later.Interns codes source terms restoration
        storage.primary.termInLang interned after idOf := by
  rw [internFrom_eq]
  have lower := leads_within (leads_lowerPasses sound)
    (@lowerPasses_termInLang codes batch source terms)
  refine leads_bind lower fun later lower between adds h => ?_
  obtain ⟨placed, hkept⟩ := h
  have hkept : between.primary.termInLang = storage.primary.termInLang := hkept
  have top := @leads_topPass codes batch source terms later between lower adds.sound placed
    restoration fun previous lost hgiven fact hfact =>
      (restorable previous lost hgiven fact hfact).mono adds.le
  rw [hkept] at top
  exact top

end Ledger

end Termbase
