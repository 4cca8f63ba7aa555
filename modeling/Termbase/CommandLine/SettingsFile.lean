import Termbase.CommandLine.Files
import Termbase.Settings.Format
import Termbase.Settings.Layers

namespace Termbase.SettingsFile

variable {m : Type → Type} [Monad m]

/-- The settings in a file with an ending. A file without text, or with an ending of no format,
gives no settings. -/
def layer (ending : Option String) (content : Content) : Except Flaw Layer :=
  match ending.bind Format.ofEnding?, content with
  | some format, .text s => (format.read s).map Layer.ofEntries
  | _, _ => .ok []

def endings : List String := Format.all.flatMap Format.endings

/-- The settings in the first file that is found by adding an ending to a path. -/
def firstOf (access : FileAccess m) (path : String) : List String → m (Except Flaw Layer)
  | [] => return .ok []
  | ending :: endings => do
    match ← access.follow (path ++ "." ++ ending) with
    | .file content => return layer (some ending) content
    | _ => firstOf access path endings

/-- The settings in the file at a path, whose ending may be left out. There need not be such a
file. -/
def read (access : FileAccess m) (path : String) : m (Except Flaw Layer) := do
  match ← access.follow path with
  | .file content => return layer (Path.ending? path) content
  | _ =>
    match Path.trimmed? path with
    | some path => firstOf access path endings
    | none => return .ok []

end Termbase.SettingsFile
