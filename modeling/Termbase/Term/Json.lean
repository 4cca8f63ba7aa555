import Termbase.Json.Reader
import Termbase.Json.Writer
import Termbase.Term.TermMap

namespace Termbase

open Json

namespace TermMap

variable {α : Type}

/-- The object of objects of arrays that a term map is written as. -/
def toValue (item : α → Value) (map : TermMap α) : Value :=
  .map (TermType.all.filterMap fun type => (map.languages? type).map fun languages =>
    (type.name, .map (languages.entries.map fun entry =>
      (entry.1, .sequence (entry.2.map item)))))

/-- Reads a member of a type's object. A repeated language replaces the earlier one. -/
def readLanguage (list : Reader (List α)) (languages : LanguageMap (List α)) :
    Reader (LanguageMap (List α)) := fun s => do
  let (language, rest) ← scanText [] s
  let rest ← readColon rest
  let (values, rest) ← list rest
  return (languages.insert (String.ofList language) values, rest)

/-- Reads a member of a term map's object. A repeated type replaces the earlier one. -/
def readType (list : Reader (List α)) (map : TermMap α) : Reader (TermMap α) := fun s => do
  let (name, rest) ← scanText [] s
  match TermType.ofName? (String.ofList name) with
  | none => .error (.unknownVariant (String.ofList name) (TermType.all.map TermType.name))
  | some type => do
    let rest ← readColon rest
    let (languages, rest) ← readMembers "a map" LanguageMap.empty (readLanguage list) rest
    return (map.withLanguages type (some languages), rest)

def read (list : Reader (List α)) : Reader (TermMap α) :=
  readMembers "a map" empty (readType list)

end TermMap

def textItems? : List Value → Option (List String)
  | [] => some []
  | .text s :: items => (textItems? items).map (s :: ·)
  | _ => none

/-- The texts that a language's value stands for: a string is a list of one. -/
def textsOfValue? : Value → Option (List String)
  | .text s => some [s]
  | .sequence items => textItems? items
  | _ => none

/-- Reads the texts of a language, a string or an array of strings. The value is read as a whole
before its form is looked at; two containers are open around it. -/
def readTexts : Reader (List String) := fun s =>
  match readValue (depthLimit - 2) s with
  | .error fault => .error fault
  | .ok (value, rest) =>
    match textsOfValue? value with
    | some texts => .ok (texts, rest)
    | none => .error (.noAlternative "OneOrMany")

namespace TermSet

def toValue (terms : TermSet) : Value := TermMap.toValue Value.text terms

def toJson (terms : TermSet) : String := terms.toValue.compact

def ofJson (text : String) : Except Fault TermSet := readAll (TermMap.read readTexts) text

end TermSet

namespace TermIds

def toValue (ids : TermIds) : Value := TermMap.toValue (fun id => Value.integer id.toInt) ids

def toJson (ids : TermIds) : String := ids.toValue.compact

def ofJson (text : String) : Except Fault TermIds :=
  readAll (TermMap.read (readList readSigned64)) text

end TermIds

end Termbase
