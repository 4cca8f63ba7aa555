import Termbase.Failure

namespace Termbase

structure TypeCodes where
  label : Option RowId
  description : Option RowId
  synonym : Option RowId
  deriving DecidableEq, Repr

namespace TypeCodes

def empty : TypeCodes := ⟨none, none, none⟩

def get? (codes : TypeCodes) : TermType → Option RowId
  | .label => codes.label
  | .description => codes.description
  | .synonym => codes.synonym

def set (codes : TypeCodes) (type : TermType) (code : RowId) : TypeCodes :=
  match type with
  | .label => { codes with label := some code }
  | .description => { codes with description := some code }
  | .synonym => { codes with synonym := some code }

/-- The codes of pairs; the last pair of a type counts. -/
def ofPairs (pairs : List (TermType × RowId)) : TypeCodes :=
  pairs.foldl (fun codes pair => codes.set pair.1 pair.2) empty

def codeOf (codes : TypeCodes) (type : TermType) : Except Failure RowId :=
  match codes.get? type with
  | some code => .ok code
  | none => .error (.missingTypeCode type)

def typeOf (codes : TypeCodes) (code : RowId) : Except Failure TermType :=
  match TermType.all.find? fun type => codes.get? type = some code with
  | some type => .ok type
  | none => .error (.unknownTypeCode code)

end TypeCodes

end Termbase
