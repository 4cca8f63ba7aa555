namespace Termbase

namespace Path

def segments (path : String) : List String :=
  (path.toList.splitOn '/').map String.ofList

def isAbsolute (path : String) : Bool := path.startsWith "/"

def isName (segment : String) : Bool := segment ≠ "" && segment ≠ "." && segment ≠ ".."

/-- A path below another one, or the path itself if it is absolute. -/
def join (base path : String) : String :=
  if isAbsolute path then path
  else if base.isEmpty || base.endsWith "/" then base ++ path
  else base ++ "/" ++ path

def expandHome (home : Option String) (path : String) : String :=
  match home, path.toList with
  | some home, '~' :: '/' :: rest => join home (String.ofList rest)
  | _, _ => path

def steps (path : String) : List String :=
  ((segments path).reverse.dropWhile fun segment => segment = "" || segment = ".").reverse

/-- A path without slashes and steps at its end; `none` if it does not end in a name. -/
def trimmed? (path : String) : Option String := do
  let steps := steps path
  if isName (← steps.getLast?) then return "/".intercalate steps else none

/-- What follows the last point in the last segment, unless the segment starts with it. -/
def ending? (path : String) : Option String := do
  let name ← (steps path).getLast?
  let cs := name.toList.reverse
  let ending := cs.takeWhile (· ≠ '.')
  if !isName name || cs.length ≤ ending.length + 1 then none
  else return String.ofList ending.reverse

end Path

/-- A place in the file system, by the names that lead there from the root or from the working
directory. Steps upwards come before all names. -/
structure Place where
  isAbsolute : Bool
  names : List String
  deriving DecidableEq, Repr

namespace Place

def parent (place : Place) : Place :=
  match place.names.getLast? with
  | none => if place.isAbsolute then place else ⟨false, [".."]⟩
  | some last =>
    if last = ".." then ⟨place.isAbsolute, place.names ++ [".."]⟩
    else ⟨place.isAbsolute, place.names.dropLast⟩

def enter (place : Place) (segment : String) : Place :=
  if segment = "" ∨ segment = "." then place
  else if segment = ".." then place.parent
  else ⟨place.isAbsolute, place.names ++ [segment]⟩

def startOf (path : String) : Place := ⟨Path.isAbsolute path, []⟩

def ofPath (path : String) : Place := (Path.segments path).foldl enter (startOf path)

/-- The place in the same directory whose name goes on with an ending. -/
def beside (place : Place) (ending : String) : Place :=
  ⟨place.isAbsolute, place.names.dropLast ++ [place.names.getLast?.getD "" ++ ending]⟩

def path (place : Place) : String :=
  if place.isAbsolute then "/" ++ "/".intercalate place.names
  else if place.names.isEmpty then "."
  else "/".intercalate place.names

end Place

end Termbase
