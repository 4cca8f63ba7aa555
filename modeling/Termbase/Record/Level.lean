import Termbase.Term.TermMap

namespace Termbase

structure TextInLang where
  textId : RowId
  language : String
  deriving DecidableEq, Repr

/-- A text in a language in use as a term of some type. -/
structure TermInLang where
  textInLangId : RowId
  typeCode : RowId
  deriving DecidableEq, Repr

/-- The three levels of interning. The rows of each one but the first point at the level below. -/
inductive Level where
  | text
  | textInLang
  | termInLang
  deriving DecidableEq, Repr

namespace Level

/-- What a row of a level holds beside its id. -/
abbrev Record : Level → Type
  | .text => String
  | .textInLang => TextInLang
  | .termInLang => TermInLang

instance decEqRecord : (level : Level) → DecidableEq level.Record
  | .text => inferInstanceAs (DecidableEq String)
  | .textInLang => inferInstanceAs (DecidableEq TextInLang)
  | .termInLang => inferInstanceAs (DecidableEq TermInLang)

def tableName : Level → String
  | .text => "text"
  | .textInLang => "text_in_lang"
  | .termInLang => "term_in_lang"

/-- The columns whose values together are unique in a level's table. -/
def keyColumns : Level → List String
  | .text => ["value"]
  | .textInLang => ["text_id", "language"]
  | .termInLang => ["text_in_lang_id", "type_id"]

/-- The row that a record points at. -/
def parent? : (level : Level) → level.Record → Option (Level × RowId)
  | .text, _ => none
  | .textInLang, record => some (.text, record.textId)
  | .termInLang, record => some (.textInLang, record.textInLangId)

end Level

end Termbase
