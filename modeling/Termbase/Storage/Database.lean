import Termbase.Entity
import Termbase.Record.Level
import Termbase.Storage.Links
import Termbase.Storage.Table

namespace Termbase

/-- The interned rows of the three levels, the codes of the term types, and the links of the
entities of each kind. -/
structure Database where
  text : Table String
  textInLang : Table TextInLang
  termInLang : Table TermInLang
  typeCodes : Table String
  itemLinks : Links
  propertyLinks : Links

/-- What a database consists of. -/
inductive Part where
  | rows (level : Level)
  | typeCodes
  | links (kind : EntityKind)
  deriving DecidableEq, Repr

namespace Part

def all : List Part :=
  [.rows .text, .rows .textInLang, .rows .termInLang, .typeCodes, .links .item,
    .links .property]

def tableName : Part → String
  | .rows level => level.tableName
  | .typeCodes => "type_codes"
  | .links .item => "item_terms"
  | .links .property => "property_terms"

def counted : List Part := all.filter fun part => part ≠ .typeCodes

def ofTableName? (name : String) : Option Part := all.find? fun part => part.tableName = name

end Part

namespace Database

def empty : Database :=
  ⟨Table.empty, Table.empty, Table.empty, Table.empty, Links.empty, Links.empty⟩

def table (db : Database) : (level : Level) → Table level.Record
  | .text => db.text
  | .textInLang => db.textInLang
  | .termInLang => db.termInLang

def withTable (db : Database) : (level : Level) → Table level.Record → Database
  | .text, table => { db with text := table }
  | .textInLang, table => { db with textInLang := table }
  | .termInLang, table => { db with termInLang := table }

def links (db : Database) : EntityKind → Links
  | .item => db.itemLinks
  | .property => db.propertyLinks

def withLinks (db : Database) (kind : EntityKind) (links : Links) : Database :=
  match kind with
  | .item => { db with itemLinks := links }
  | .property => { db with propertyLinks := links }

def copyPart (db source : Database) : Part → Database
  | .rows level => db.withTable level (source.table level)
  | .typeCodes => { db with typeCodes := source.typeCodes }
  | .links kind => db.withLinks kind (source.links kind)

def rowCount (db : Database) : Part → Nat
  | .rows level => (db.table level).rows.length
  | .typeCodes => db.typeCodes.rows.length
  | .links kind => (db.links kind).pairs.length

def rowCounts (db : Database) : List (Part × Nat) :=
  Part.counted.map fun part => (part, db.rowCount part)

end Database

inductive Source where
  | primary
  | replica
  deriving DecidableEq, Repr

/-- The primary, which is written, and a replica of it, which may lag behind. -/
structure Storage where
  primary : Database
  replica : Database

namespace Storage

def database (storage : Storage) : Source → Database
  | .primary => storage.primary
  | .replica => storage.replica

def sync (storage : Storage) (parts : List Part) : Storage :=
  { storage with
    replica := parts.foldl (fun db part => db.copyPart storage.primary part) storage.replica }

end Storage

end Termbase
