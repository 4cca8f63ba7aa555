import Termbase.Ascending
import Termbase.Term.LanguageMap

namespace Termbase

/-- How a text names or describes an entity. -/
inductive TermType where
  | label
  | description
  /-- An alternative name. -/
  | synonym
  deriving DecidableEq, Repr

namespace TermType

def all : List TermType := [.label, .description, .synonym]

def name : TermType → String
  | .label => "label"
  | .description => "description"
  | .synonym => "alias"

def ofName? (name : String) : Option TermType := all.find? fun type => type.name = name

end TermType

/-- Lists by type and language. A type may be there without a language, and a language with an
empty list. -/
structure TermMap (α : Type) where
  label : Option (LanguageMap (List α))
  description : Option (LanguageMap (List α))
  synonym : Option (LanguageMap (List α))
  deriving DecidableEq

namespace TermMap

variable {α : Type}

def empty : TermMap α := ⟨none, none, none⟩

def languages? (map : TermMap α) : TermType → Option (LanguageMap (List α))
  | .label => map.label
  | .description => map.description
  | .synonym => map.synonym

def withLanguages (map : TermMap α) (type : TermType) (languages : Option (LanguageMap (List α))) :
    TermMap α :=
  match type with
  | .label => { map with label := languages }
  | .description => { map with description := languages }
  | .synonym => { map with synonym := languages }

def get? (map : TermMap α) (type : TermType) (language : String) : Option (List α) :=
  (map.languages? type).bind fun languages => languages.get? language

/-- Gives a type and language their list, in place of an earlier one. -/
def put (map : TermMap α) (type : TermType) (language : String) (list : List α) : TermMap α :=
  map.withLanguages type
    (some (((map.languages? type).getD LanguageMap.empty).insert language list))

def append (map : TermMap α) (type : TermType) (language : String) (x : α) : TermMap α :=
  map.put type language ((map.get? type language).getD [] ++ [x])

/-- Takes the list of a type and language away, and the type with it if no language is left. -/
def remove (map : TermMap α) (type : TermType) (language : String) : TermMap α :=
  match map.languages? type with
  | none => map
  | some languages =>
    let rest := languages.erase language
    map.withLanguages type (if rest.entries = [] then none else some rest)

/-- Gives a type and language their list; an empty list takes them away. -/
def set (map : TermMap α) (type : TermType) (language : String) (list : List α) : TermMap α :=
  if list.isEmpty then map.remove type language else map.put type language list

def types (map : TermMap α) : List TermType :=
  TermType.all.filter fun type => (map.languages? type).isSome

/-- The lists with their types and languages, in ascending order of both. -/
def entries (map : TermMap α) : List (TermType × String × List α) :=
  TermType.all.flatMap fun type => match map.languages? type with
    | none => []
    | some languages => languages.entries.map fun entry => (type, entry.1, entry.2)

def values (map : TermMap α) : List α := map.entries.flatMap fun entry => entry.2.2

def isEmpty (map : TermMap α) : Bool := map.entries.all fun entry => entry.2.2.isEmpty

/-- Each element with its type and language. -/
def occurrences (map : TermMap α) : List (TermType × String × α) :=
  map.entries.flatMap fun entry => entry.2.2.map fun x => (entry.1, entry.2.1, x)

end TermMap

abbrev TermSet := TermMap String

namespace TermSet

/-- Gives a language its label, in place of earlier ones. -/
def withLabel (terms : TermSet) (language text : String) : TermSet :=
  terms.set .label language [text]

/-- Gives a language its description, in place of earlier ones. -/
def withDescription (terms : TermSet) (language text : String) : TermSet :=
  terms.set .description language [text]

/-- Adds an alternative name in a language. -/
def withSynonym (terms : TermSet) (language text : String) : TermSet :=
  terms.append .synonym language text

end TermSet

abbrev RowId := Int64

abbrev TermIds := TermMap RowId

def TermIds.ids (ids : TermIds) : List RowId := ascending ids.values

end Termbase
