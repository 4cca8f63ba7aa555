import Termbase.Json.Reader

namespace Termbase

/-- Where a store keeps its rows and how it reads them. -/
structure StoreSettings where
  path : String
  replicaPath : Option String
  batchSize : Nat
  deriving DecidableEq, Repr

namespace StoreSettings

def defaultBatchSize : Nat := 100

def ofPath (path : String) : StoreSettings := ⟨path, none, defaultBatchSize⟩

open Json

def readPath : Reader String := readText "path string"

def readOptionalPath : Reader (Option String) := fun s =>
  match skipBlanks s with
  | 'n' :: rest => (skipWord ['u', 'l', 'l'] rest).map fun after => (none, after)
  | s => (readPath s).map fun r => (some r.1, r.2)

def readBatchSize : Reader Nat := fun s =>
  (readInteger "usize" (fun n => decide (0 ≤ n) && decide (n < Number.twoTo 64)) s).map fun r =>
    (r.1.toNat, r.2)

structure Fields where
  path : Option String
  replicaPath : Option (Option String)
  batchSize : Option Nat

def ofFields (fields : Fields) : Except Fault StoreSettings :=
  match fields.path with
  | none => .error (.missingField "path")
  | some path =>
    .ok ⟨path, fields.replicaPath.getD none, fields.batchSize.getD defaultBatchSize⟩

/-- Reads a member of the settings' object. A field may come once; other members are passed
over. -/
def readField (fields : Fields) : Reader Fields := fun s => do
  let (name, rest) ← scanText [] s
  match String.ofList name with
  | "path" =>
    if fields.path.isSome then .error (.duplicateField "path")
    else
      let (path, rest) ← readPath (← readColon rest)
      return ({ fields with path := some path }, rest)
  | "replica_path" =>
    if fields.replicaPath.isSome then .error (.duplicateField "replica_path")
    else
      let (path, rest) ← readOptionalPath (← readColon rest)
      return ({ fields with replicaPath := some path }, rest)
  | "batch_size" =>
    if fields.batchSize.isSome then .error (.duplicateField "batch_size")
    else
      let (size, rest) ← readBatchSize (← readColon rest)
      return ({ fields with batchSize := some size }, rest)
  | _ => do
    let rest ← skipValue (← readColon rest)
    return (fields, rest)

/-- Goes on to an item of an array, of which `isFirst` is the first; `none` means that the array
ends here. -/
def nextItem (isFirst : Bool) (s : List Char) : Except Fault (Option (List Char)) :=
  match skipBlanks s with
  | [] => .error .unfinished
  | c :: rest =>
    if c = ']' then .ok none
    else if isFirst then .ok (some (c :: rest))
    else if c = ',' then
      match skipBlanks rest with
      | [] => .error .unfinished
      | d :: rest => if d = ']' then .error .malformed else .ok (some (d :: rest))
    else .error .malformed

def endItems (s : List Char) : Except Fault (List Char) :=
  match skipBlanks s with
  | [] => .error .unfinished
  | c :: rest => if c = ']' then .ok rest else .error .malformed

/-- Reads the fields from an array in their order; those at the end may be left out. -/
def readArray (s : List Char) : Except Fault (StoreSettings × List Char) := do
  match ← nextItem true s with
  | none => .error (.wrongLength 0 "struct StoreConfig with 3 elements")
  | some s => do
    let (path, rest) ← readPath s
    match ← nextItem false rest with
    | none => return (ofPath path, ← endItems rest)
    | some s => do
      let (replicaPath, rest) ← readOptionalPath s
      match ← nextItem false rest with
      | none => return (⟨path, replicaPath, defaultBatchSize⟩, ← endItems rest)
      | some s => do
        let (batchSize, rest) ← readBatchSize s
        return (⟨path, replicaPath, batchSize⟩, ← endItems rest)

/-- Reads settings, from an object or from an array of the fields. -/
def read : Reader StoreSettings := fun s =>
  match skipBlanks s with
  | '[' :: rest => readArray rest
  | s => do
    let (fields, rest) ←
      readMembers "struct StoreConfig" (⟨none, none, none⟩ : Fields) readField s
    let settings ← ofFields fields
    return (settings, rest)

def ofJson (text : String) : Except Fault StoreSettings := readAll read text

end StoreSettings

end Termbase
