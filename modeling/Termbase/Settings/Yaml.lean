import Termbase.Settings.Setting
import Termbase.Settings.Yaml.Document

namespace Termbase.Yaml

namespace Node

def name? : Node → Option String
  | .text s => some s
  | .integer n => some (String.ofList (Number.integerChars n.toInt))
  | _ => none

mutual

/-- The setting that a node gives. A number with a fraction has to be one in decimals. -/
def toSetting : Node → Except Flaw Setting
  | .nothing => .ok .nothing
  | .misfit => .ok .nothing
  | .boolean b => .ok (.scalar (.boolean b))
  | .integer n => .ok (.scalar (.integer n))
  | .real s => ((Number.Real.ofText? s).elim (.error .unreadable)) fun x => .ok (.scalar (.real x))
  | .text s => .ok (.text s)
  | .sequence items => do return .list (← toSettings items)
  | .mapping entries => do return .table (← toMembers entries)

def toSettings : List Node → Except Flaw (List Setting)
  | [] => .ok []
  | item :: items => do return (← toSetting item) :: (← toSettings items)

def toMember : Node × Node → Except Flaw (String × Setting)
  | (key, value) =>
    match key.name? with
    | some name => do return (name, ← toSetting value)
    | none => .error .oddKey

def toMembers : List (Node × Node) → Except Flaw (List (String × Setting))
  | [] => .ok []
  | entry :: entries => do return (← toMember entry) :: (← toMembers entries)

end

end Node

def read (text : String) : Except Flaw (List (String × Setting)) :=
  match (tokens? text).bind Node.ofTokens? with
  | none => .error .unreadable
  | some node => do Flaw.orUnreadable (← node.toSetting).members?

end Termbase.Yaml
