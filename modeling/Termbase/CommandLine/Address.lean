import Termbase.Number.Digits

namespace Termbase

inductive OpenMode where
  | read
  | write
  /-- For writing, even if it is not there yet. -/
  | create
  | memory
  deriving DecidableEq, Repr

namespace OpenMode

def ofName? : String → Option OpenMode
  | "ro" => some .read
  | "rw" => some .write
  | "rwc" => some .create
  | "memory" => some .memory
  | _ => none

/-- Whether a mode may take the place of another one. None but the memory allows more. -/
def mayBecome : OpenMode → OpenMode → Bool
  | _, .memory => true
  | .memory, _ => true
  | .create, _ => true
  | .write, next => next ≠ .create
  | .read, next => next = .read

end OpenMode

/-- A name under which all of the program finds a database in memory. -/
inductive SharedName where
  /-- A name among the databases of a file system that are open. -/
  | cached (system path : String)
  /-- A name in the file system that is a part of the memory. -/
  | stored (path : String)
  deriving DecidableEq, Repr

inductive Location where
  | file (path : String)
  /-- In memory, until the program ends. Databases with a name in common are one. -/
  | memory (names : List SharedName)
  deriving DecidableEq, Repr

namespace Location

def sharedNames : Location → List SharedName
  | .file _ => []
  | .memory names => names

def isSharedWith (location other : Location) : Bool :=
  location.sharedNames.any fun name => name ∈ other.sharedNames

end Location

/-- What the name of a database stands for. -/
structure Address where
  location : Location
  mode : OpenMode
  /-- Whether only what its file itself holds counts. -/
  isFrozen : Bool
  /-- Whether what is written last may be kept in a file of its own. -/
  keepsLog : Bool
  deriving DecidableEq, Repr

namespace Address

def hexByte? (high low : UInt8) : Option UInt8 := do
  let high ← Number.hexDigit? (Char.ofNat high.toNat)
  let low ← Number.hexDigit? (Char.ofNat low.toNat)
  return UInt8.ofNat (16 * high + low)

def percent : UInt8 := 0x25

/-- Bytes in which a percent sign and two hexadecimal digits stand for a byte. The zero byte ends
them. -/
def decoded : List UInt8 → List UInt8
  | sign :: high :: low :: rest =>
    match if sign = percent then hexByte? high low else none with
    | some byte => if byte = 0 then [] else byte :: decoded rest
    | none => sign :: decoded (high :: low :: rest)
  | bytes => bytes

/-- The text of bytes; each is a character if they are no text. -/
def textOf (bytes : List UInt8) : String :=
  match String.fromUTF8? ⟨bytes.toArray⟩ with
  | some s => s
  | none => String.ofList (bytes.map fun byte => Char.ofNat byte.toNat)

def split (c : Char) (bytes : List UInt8) : List UInt8 × List UInt8 :=
  let isBefore := fun byte : UInt8 => byte.toNat ≠ c.toNat
  (bytes.takeWhile isBefore, (bytes.dropWhile isBefore).drop 1)

/-- The bytes after the name of a host, if there is one; only the name of this one is known. -/
def afterHost? (bytes : List UInt8) : Option (List UInt8) :=
  match bytes with
  | a :: b :: rest =>
    if a.toNat = '/'.toNat ∧ b.toNat = '/'.toNat then
      let host := rest.takeWhile fun byte => byte.toNat ≠ '/'.toNat
      if textOf host ∈ ["", "localhost"] then some (rest.drop host.length) else none
    else some bytes
  | _ => some bytes

/-- The names and values of the options after a path. One without a name does not count. -/
def options (bytes : List UInt8) : List (String × String) :=
  ((bytes.splitOn (UInt8.ofNat '&'.toNat)).map fun option =>
    let (name, value) := split '=' option
    (textOf (decoded name), textOf (decoded value))).filter fun option => option.1 ≠ ""

structure Choices where
  mode : OpenMode
  isShared : Bool
  isFrozen : Option Bool
  isUnlocked : Option Bool
  system : String

def Choices.start (mode : OpenMode) : Choices := ⟨mode, false, none, none, "unix"⟩

/-- Whether a number turns an option on. Only its lowest byte counts, and a number that does not
fit into 31 bits is none. -/
def isOnNumber (n : Nat) : Bool := n < Number.twoTo 31 && n % 256 ≠ 0

/-- The number that a text starts with, in hexadecimal digits after `0x`. -/
def leadingNumber? (cs : List Char) : Option Nat :=
  let decimal := Number.numeral? 10 (cs.takeWhile fun c => (Number.digit? c).isSome)
  match cs with
  | '0' :: x :: rest =>
    if x.toLower = 'x' then
      (Number.numeral? 16 (rest.takeWhile fun c => (Number.hexDigit? c).isSome)).or decimal
    else decimal
  | _ => decimal

def isOn (value : String) : Bool :=
  match leadingNumber? value.toList with
  | some n => isOnNumber n
  | none => value.toLower ∈ ["on", "yes", "true"]

/-- Follows an option; `none` if its value makes no sense or its mode is not allowed. -/
def Choices.follow (choices : Choices) (option : String × String) : Option Choices :=
  match option.1 with
  | "mode" => do
    let mode ← OpenMode.ofName? option.2
    if choices.mode.mayBecome mode then return { choices with mode := mode } else none
  | "cache" =>
    match option.2 with
    | "shared" => some { choices with isShared := true }
    | "private" => some { choices with isShared := false }
    | _ => none
  | "immutable" =>
    some { choices with isFrozen := some (choices.isFrozen.getD (isOn option.2)) }
  | "nolock" =>
    some { choices with isUnlocked := some (choices.isUnlocked.getD (isOn option.2)) }
  | "vfs" => some { choices with system := option.2 }
  | _ => some choices

def systems : List String := ["unix", "unix-none", "unix-dotfile", "unix-excl", "memdb"]

/-- The file systems that have no memory which programs share, as the index of a log needs it. -/
def systemsWithoutIndex : List String := ["unix-none", "unix-dotfile"]

/-- The file system that is a part of the memory. -/
def memorySystem : String := "memdb"

def memoryName : String := ":memory:"

/-- Whether a path names a database in memory that is no part of a file system. -/
def isOutsideSystems (path : String) (choices : Choices) : Bool :=
  path = memoryName || choices.mode = .memory

def isStoredName (path : String) : Bool :=
  path.utf8ByteSize > 1 && (path.startsWith "/" || path.startsWith "\\")

def sharedNames (path : String) (choices : Choices) : List SharedName :=
  (if choices.isShared then [SharedName.cached choices.system path] else []) ++
    if !isOutsideSystems path choices && isStoredName path then [SharedName.stored path] else []

def ofPath (path : String) (choices : Choices) : Address :=
  if path.isEmpty then ⟨.memory [], choices.mode, false, false⟩
  else if isOutsideSystems path choices || choices.system = memorySystem then
    ⟨.memory (sharedNames path choices), choices.mode, false, false⟩
  else
    ⟨.file path, choices.mode, choices.isFrozen.getD false,
      !choices.isUnlocked.getD false && choices.system ∉ systemsWithoutIndex⟩

/-- What a name starts with that is a path with options. -/
def scheme : String := "file:"

def ofResource? (mode : OpenMode) (bytes : List UInt8) : Option Address := do
  let bytes ← afterHost? bytes
  let (path, query) := split '?' (split '#' bytes).1
  let choices ← (options query).foldlM Choices.follow (Choices.start mode)
  if choices.system ∈ systems then return ofPath (textOf (decoded path)) choices else none

/-- The address that a name stands for, when a database is opened in a mode. No name contains a
zero byte. -/
def ofName? (mode : OpenMode) (name : String) : Option Address :=
  if name.contains '\x00' then none
  else if name.startsWith scheme then
    ofResource? mode (name.toUTF8.toList.drop scheme.utf8ByteSize)
  else some (ofPath name (Choices.start mode))

def isWritable (address : Address) : Bool := address.mode ≠ .read && !address.isFrozen

end Address

end Termbase
