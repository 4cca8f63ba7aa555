import Termbase.Digest.Sha256
import Termbase.Record.Level

namespace Termbase

inductive Cell where
  | integer (n : RowId)
  | text (s : String)
  deriving DecidableEq, Repr

def utf8Bytes (s : String) : List UInt8 := s.toUTF8.data.toList

/-- The eight bytes of a 64-bit number, the highest first. -/
def bigEndian (n : UInt64) : List UInt8 :=
  [(n >>> 56).toUInt8, (n >>> 48).toUInt8, (n >>> 40).toUInt8, (n >>> 32).toUInt8,
    (n >>> 24).toUInt8, (n >>> 16).toUInt8, (n >>> 8).toUInt8, n.toUInt8]

/-- The bytes of a value, after a letter for its kind. -/
def Cell.bytes : Cell → List UInt8
  | .integer n => 105 :: bigEndian n.toUInt64
  | .text s => 116 :: utf8Bytes s

/-- The bytes of a named value, with a zero byte after the name and after the value. -/
def columnBytes (column : String × Cell) : List UInt8 :=
  utf8Bytes column.1 ++ 0 :: column.2.bytes ++ [0]

namespace Level

/-- The values of a record, in the order of the key columns. -/
def cells : (level : Level) → level.Record → List Cell
  | .text, value => [.text value]
  | .textInLang, record => [.integer record.textId, .text record.language]
  | .termInLang, record => [.integer record.textInLangId, .integer record.typeCode]

/-- The named values of a record, in the order of their names. -/
def columns (level : Level) (record : level.Record) : List (String × Cell) :=
  (level.keyColumns.zip (level.cells record)).mergeSort fun a b => decide (a.1 ≤ b.1)

/-- The bytes by which records of a level are told apart. -/
def encode (level : Level) (record : level.Record) : List UInt8 :=
  (level.columns record).flatMap columnBytes

def distinct (level : Level) (records : List level.Record) : List level.Record :=
  distinctOn level.encode records

def fingerprint (level : Level) (record : level.Record) : String :=
  Sha256.hex (level.encode record)

end Level

end Termbase
