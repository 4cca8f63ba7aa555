import Termbase.Interning.Acquired
import Termbase.Interning.RecordIds
import Termbase.Interning.TypeCodes
import Termbase.Record.Encoding
import Termbase.Text.ByteLength

namespace Termbase

/-- Ids of an earlier interning that are to come back to their texts. -/
structure Restoration where
  previous : TermIds
  lost : List RowId

/-- The ids of a term set, in its shape, and what kept lost ids from coming back. -/
structure Interned where
  ids : TermIds
  mismatch : Option ForcedMismatch

/-- The ids that are known when the rows of the top level are made: those of the kept texts and
those of the kept texts in their languages. -/
structure LowerIds where
  texts : RecordIds .text
  textsInLang : RecordIds .textInLang

def textInLangOf (texts : RecordIds .text) (language text : String) :
    Except Failure TextInLang := do
  return ⟨← texts.idOf (Text.kept text), language⟩

def LowerIds.termOf (lower : LowerIds) (codes : TypeCodes) (type : TermType)
    (language text : String) : Except Failure TermInLang := do
  let record ← textInLangOf lower.texts language text
  return ⟨← lower.textsInLang.idOf record, ← codes.codeOf type⟩

/-- The lost ids, each for the record of the text that had it. -/
def Restoration.forcedIds (restoration : Restoration) (terms : TermSet)
    (recordOf : TermType → String → String → Except Failure TermInLang) :
    Except Failure (ForcedIds .termInLang) :=
  terms.entries.foldlM (fun forced entry => do
    let (type, language, texts) := entry
    let previous := (restoration.previous.get? type language).getD []
    (texts.zip previous).foldlM (fun forced pair => do
      if pair.2 ∈ restoration.lost then
        return forced.insert (← recordOf type language pair.1) pair.2
      else return forced) forced) ForcedIds.empty

/-- The ids of a term set's records, in the shape of the term set. -/
def shapedIds (terms : TermSet) (acquired : RecordIds .termInLang)
    (recordOf : TermType → String → String → Except Failure TermInLang) : Except Failure TermIds :=
  terms.entries.foldlM (fun ids entry => do
    let (type, language, texts) := entry
    let list ← texts.mapM fun text => do acquired.idOf (← recordOf type language text)
    return ids.put type language list) TermMap.empty

/-- Interns a term set level by level: the kept texts, the texts in their languages, and these as
terms of their types. Every type that is there needs a code, even if it has no text. -/
def internFrom (codes : TypeCodes) (batch : BatchSize) (source : Source) (terms : TermSet)
    (restoration : Option Restoration) : Action Storage Interned := do
  let texts ← acquireIds batch source .text
    (Level.text.distinct (terms.values.map Text.kept)) none
  let records ← Action.ofResult
    (terms.occurrences.mapM fun term => textInLangOf texts term.2.1 term.2.2)
  let textsInLang ← acquireIds batch source .textInLang (Level.textInLang.distinct records) none
  let _ ← Action.ofResult (terms.types.mapM codes.codeOf)
  let recordOf := LowerIds.termOf ⟨texts, textsInLang⟩ codes
  let records ← Action.ofResult
    (terms.occurrences.mapM fun term => recordOf term.1 term.2.1 term.2.2)
  let forced ← Action.ofResult
    (restoration.mapM fun restoration => restoration.forcedIds terms recordOf)
  let acquired ← acquireIds batch source .termInLang (Level.termInLang.distinct records) forced
  let ids ← Action.ofResult (shapedIds terms acquired recordOf)
  return ⟨ids, acquired.mismatch⟩

end Termbase
