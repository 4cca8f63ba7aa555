import Termbase.Cleanup
import Termbase.Interning.Acquired
import Termbase.Term.Json

namespace Termbase

open Json

def RowId.toValue (id : RowId) : Value := .integer id.toInt

def idsValue (ids : List RowId) : Value := .sequence (ids.map RowId.toValue)

def RestoreMismatch.toValue (mismatch : RestoreMismatch) : Value :=
  .map [("ids_to_restore", idsValue mismatch.idsToRestore),
    ("records_to_insert", .natural mismatch.recordsToInsert)]

def Acquired.toValue (acquired : Acquired) : Value :=
  .map [("ids", TermIds.toValue acquired.ids),
    ("mismatch", (acquired.mismatch.map RestoreMismatch.toValue).getD .null)]

def CleanupReport.toValue (report : CleanupReport) : Value :=
  .map [("term_in_lang", idsValue report.termInLang), ("text_in_lang", idsValue report.textInLang),
    ("text", idsValue report.text)]

def rowCountsValue (counts : List (Part × Nat)) : Value :=
  .map (counts.map fun count => (count.1.tableName, .natural count.2))

end Termbase
