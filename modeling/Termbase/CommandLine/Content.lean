import Termbase.Storage.Snapshot

namespace Termbase

inductive Content where
  | text (s : String)
  /-- A database, of which the last that has been written may be in a log beside the file. -/
  | database (db : Database) (isLogged : Bool)
  | other

namespace Content

/-- The byte that a file without text starts with, or with a database that has a log. No text
contains it. -/
def mark : UInt8 := 0xff

/-- The byte that a file with a whole database starts with. No text contains it. -/
def wholeMark : UInt8 := 0xfe

def toBytes : Content → ByteArray
  | .text s => s.toUTF8
  | .database db isLogged =>
    ⟨#[if isLogged then mark else wholeMark]⟩ ++ (Snapshot.write db).toUTF8
  | .other => ⟨#[mark]⟩

def ofMarked (isLogged : Bool) (bytes : ByteArray) : Content :=
  match (String.fromUTF8? bytes).bind Snapshot.read? with
  | some db => .database db isLogged
  | none => .other

def ofBytes (bytes : ByteArray) : Content :=
  let first := bytes.data[0]?
  if first = some mark ∨ first = some wholeMark then
    ofMarked (decide (first = some mark)) (bytes.extract 1 bytes.size)
  else
    match String.fromUTF8? bytes with
    | some s => .text s
    | none => .other

/-- The database that a file holds. A file of one byte at most is one without rows. -/
def database? : Content → Option Database
  | .text s => if s.utf8ByteSize ≤ 1 then some Database.empty else none
  | .database db _ => some db
  | .other => none

def isLogged : Content → Bool
  | .database _ isLogged => isLogged
  | _ => false

end Content

end Termbase
