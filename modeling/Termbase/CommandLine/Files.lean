import Termbase.CommandLine.Content
import Termbase.CommandLine.Path

namespace Termbase

inductive Entry where
  | absent
  | directory
  | file (content : Content)

/-- What the program needs of the system it runs on. -/
structure FileAccess (m : Type → Type) where
  find : Place → m Entry
  create : Place → m Bool
  write : Place → Content → m Unit
  remove : Place → m Unit
  standardInput : m String

namespace FileAccess

variable {m : Type → Type} [Monad m]

def followFrom (access : FileAccess m) : Place → Entry → List String → m Entry
  | _, entry, [] => return entry
  | place, .directory, segment :: segments => do
    let next := place.enter segment
    followFrom access next (← access.find next) segments
  | _, _, _ :: _ => return .absent

/-- What is found at the end of a path. All that the path goes through has to be a directory. -/
def follow (access : FileAccess m) (path : String) : m Entry :=
  followFrom access (Place.startOf path) .directory (Path.segments path)

def longestName : Nat := 255

def longestPath : Nat := 512

def isReachable (place : Place) : Bool := decide (place.path.utf8ByteSize < longestPath)

/-- Goes from a place on by the segments of a path. What is not there is no obstacle, but nothing
is below a file, no directory has a name that is too long, and no path is too long. -/
def settleFrom (access : FileAccess m) : Place → List String → m (Option Place)
  | place, [] => return some place
  | place, segment :: segments => do
    let next := settleFrom access (place.enter segment) segments
    if !isReachable (place.enter segment) then return none
    else if Path.isName segment then
      match ← access.find place with
      | .file _ => return none
      | .directory => if longestName < segment.utf8ByteSize then return none else next
      | .absent => next
    else next

/-- The place that a path leads to. A step upwards takes back the step before it. -/
def settle (access : FileAccess m) (path : String) : m (Option Place) :=
  settleFrom access (Place.startOf path) (Path.segments path)

end FileAccess

/-- Files in memory, by the names of their places. A directory is there if a file is in it. -/
structure FileTree where
  files : List (List String × Content)

namespace FileTree

def ofTexts (texts : List (String × String)) : FileTree :=
  ⟨texts.reverse.map fun entry => ((Place.ofPath entry.1).names, .text entry.2)⟩

/-- Whether a place is a directory. The root and the places above the tree are. -/
def isDirectory (tree : FileTree) (place : Place) : Bool :=
  place.names.all (· = "..") ||
    !place.isAbsolute && tree.files.any fun file =>
      place.names.isPrefixOf file.1 && place.names.length < file.1.length

def find (tree : FileTree) (place : Place) : Entry :=
  if tree.isDirectory place then .directory
  else if place.isAbsolute then .absent
  else
    match tree.files.lookup place.names with
    | some content => .file content
    | none => .absent

def remove (tree : FileTree) (place : Place) : FileTree :=
  ⟨tree.files.filter fun file => file.1 ≠ place.names⟩

def write (tree : FileTree) (place : Place) (content : Content) : FileTree :=
  ⟨(place.names, content) :: (tree.remove place).files⟩

def create (tree : FileTree) (place : Place) : Bool × FileTree :=
  if !place.isAbsolute && tree.isDirectory place.parent then (true, tree.write place (.text ""))
  else (false, tree)

def access (input : String) : FileAccess (StateM FileTree) where
  find := fun place => do return (← get).find place
  create := fun place tree => tree.create place
  write := fun place content => modify fun tree => tree.write place content
  remove := fun place => modify fun tree => tree.remove place
  standardInput := return input

end FileTree

end Termbase
