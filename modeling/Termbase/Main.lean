import Termbase.CommandLine

namespace Termbase

/-- The number of the failure to read a directory as a file. -/
def directoryCode : UInt32 := 21

def systemEntry (path : String) : IO Entry := do
  try
    return .file (Content.ofBytes (← IO.FS.readBinFile path))
  catch failure =>
    match failure with
    | .inappropriateType _ code _ => return if code = directoryCode then .directory else .absent
    | _ => return .absent

def systemAccess : FileAccess IO where
  find := fun place => systemEntry place.path
  create := fun place => do
    try
      IO.FS.writeFile place.path ""
      return true
    catch _ => return false
  write := fun place content => IO.FS.writeBinFile place.path content.toBytes
  remove := fun place => do
    try IO.FS.removeFile place.path
    catch _ => return ()
  standardInput := do return (← (← IO.getStdin).readToEnd)

def assignment? (text : String) : Option (String × String) :=
  match text.splitOn "=" with
  | name :: value :: values => some (name, "=".intercalate (value :: values))
  | _ => none

def systemEnvironment : IO (List (String × String)) := do
  try
    let text ← IO.FS.readFile "/proc/self/environ"
    return (text.splitOn "\x00").filterMap assignment?
  catch _ => return []

end Termbase

open Termbase

def main (words : List String) : IO UInt32 := do
  let response ← CommandLine.run systemAccess (← systemEnvironment) words
  match response with
  | .printed text => IO.print text
  | .failed message => IO.eprintln ("Error: " ++ message)
  | .misused => IO.eprintln "usage: termstore [--config FILE] COMMAND"
  | .aborted => IO.eprintln "a key of the settings is neither a text nor an integer"
  return response.exitCode.toUInt32
