import Termbase.Json.Reader
import Termbase.Json.Writer
import Termbase.Storage.Database

namespace Termbase

open Json

namespace Snapshot

def idValue (id : RowId) : Value := .integer id.toInt

def tableValue {ρ : Type} (cells : ρ → List Value) (table : Table ρ) : Value :=
  .map [("last", idValue table.lastId),
    ("rows", .sequence (table.rows.map fun row => .sequence (idValue row.1 :: cells row.2)))]

def linksValue (links : Links) : Value :=
  .sequence (links.pairs.map fun pair =>
    .sequence [.natural pair.1.toNat, idValue pair.2])

def textCells (s : String) : List Value := [.text s]

def textInLangCells (record : TextInLang) : List Value :=
  [idValue record.textId, .text record.language]

def termInLangCells (record : TermInLang) : List Value :=
  [idValue record.textInLangId, idValue record.typeCode]

def value (db : Database) : Value :=
  .map [((Part.rows .text).tableName, tableValue textCells db.text),
    ((Part.rows .textInLang).tableName, tableValue textInLangCells db.textInLang),
    ((Part.rows .termInLang).tableName, tableValue termInLangCells db.termInLang),
    (Part.typeCodes.tableName, tableValue textCells db.typeCodes),
    ((Part.links .item).tableName, linksValue db.itemLinks),
    ((Part.links .property).tableName, linksValue db.propertyLinks)]

def write (db : Database) : String := (value db).compact

def id? : Value → Option RowId
  | .number (.natural n) => if n < Number.twoTo 63 then some (Int64.ofNat n) else none
  | .number (.negative n) => if n ≤ Number.twoTo 63 then some (Int64.ofInt (-(n : Int))) else none
  | _ => none

def text? : List Value → Option String
  | [.text s] => some s
  | _ => none

def textInLang? : List Value → Option TextInLang
  | [id, .text language] => do return ⟨← id? id, language⟩
  | _ => none

def termInLang? : List Value → Option TermInLang
  | [id, code] => do return ⟨← id? id, ← id? code⟩
  | _ => none

def table? {ρ : Type} [DecidableEq ρ] (record? : List Value → Option ρ) (value : Value) :
    Option (Table ρ) := do
  let last ← id? (← value.field? "last")
  let .sequence rows ← value.field? "rows" | none
  let table ← rows.foldlM (fun (table : Table ρ) row =>
    match row with
    | .sequence (id :: cells) => do return table.insertAt (← id? id) (← record? cells)
    | _ => none) Table.empty
  return table.reserve last

def links? : Value → Option Links
  | .sequence pairs => pairs.foldlM (fun links pair =>
      match pair with
      | .sequence [.number (.natural number), id] => do
        return links.add (UInt32.ofNat number) (← id? id)
      | _ => none) Links.empty
  | _ => none

def read? (text : String) : Option Database :=
  match readAll (readValue depthLimit) text with
  | .error _ => none
  | .ok value => do
    let part (part : Part) : Option Value := value.field? part.tableName
    return {
      text := ← table? text? (← part (.rows .text))
      textInLang := ← table? textInLang? (← part (.rows .textInLang))
      termInLang := ← table? termInLang? (← part (.rows .termInLang))
      typeCodes := ← table? text? (← part .typeCodes)
      itemLinks := ← links? (← part (.links .item))
      propertyLinks := ← links? (← part (.links .property)) }

end Snapshot

end Termbase
