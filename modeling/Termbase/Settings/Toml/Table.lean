import Termbase.Ascending
import Termbase.Settings.Setting

namespace Termbase.Toml

inductive Origin where
  | header
  /-- By the header of a table below it. -/
  | implied
  /-- By a key with points. -/
  | dotted
  deriving DecidableEq, Repr

/-- What stands under a name while a text is being read. -/
inductive Node where
  | leaf (setting : Setting)
  | table (origin : Origin) (members : List (String × Node))
  /-- A list of tables, by the last of them. -/
  | tables (last : List (String × Node))

abbrev Members := List (String × Node)

namespace Members

/-- Gives a key its value. No name gets a value twice, and a key with points goes into tables that
such keys have made. -/
def put (setting : Setting) : List String → Members → Option Members
  | [], _ => none
  | [name], members =>
    if (members.lookup name).isSome then none else some (members ++ [(name, .leaf setting)])
  | name :: next :: names, members =>
    match members.lookup name with
    | none => do
      return members ++ [(name, .table .dotted (← put setting (next :: names) []))]
    | some (.table .dotted below) => do
      return assign name (.table .dotted (← put setting (next :: names) below)) members
    | some (.table .implied below) =>
      if names.isEmpty then none
      else do return assign name (.table .implied (← put setting (next :: names) below)) members
    | some (.tables last) =>
      if names.isEmpty then none
      else do return assign name (.tables (← put setting (next :: names) last)) members
    | some _ => none

/-- Changes the members of the table that names lead to. Tables that are not there yet are
implied. -/
def within (change : Members → Option Members) : List String → Members → Option Members
  | [], members => change members
  | name :: names, members =>
    match members.lookup name with
    | none => do return members ++ [(name, .table .implied (← within change names []))]
    | some (.table origin below) => do
      return assign name (.table origin (← within change names below)) members
    | some (.tables last) => do
      return assign name (.tables (← within change names last)) members
    | some (.leaf _) => none

/-- Starts the table with a name; only a table that has been implied may be there. -/
def openTable (name : String) (members : Members) : Option Members :=
  match members.lookup name with
  | none => some (members ++ [(name, .table .header [])])
  | some (.table .implied below) => some (assign name (.table .header below) members)
  | some _ => none

def openListed (name : String) (members : Members) : Option Members :=
  match members.lookup name with
  | none => some (members ++ [(name, .tables [])])
  | some (.tables _) => some (assign name (.tables []) members)
  | some _ => none

/-- Does something under the last of the names, in the table that the others lead to. -/
def atLast (change : String → Members → Option Members) (names : List String)
    (members : Members) : Option Members := do
  within (change (← names.getLast?)) names.dropLast members

end Members

mutual

def Node.toSetting : Node → Setting
  | .leaf setting => setting
  | .table _ members => .table (Members.toSettings members)
  | .tables last => .list [.table (Members.toSettings last)]

def Members.toSettings : List (String × Node) → List (String × Setting)
  | [] => []
  | (name, node) :: rest => (name, node.toSetting) :: Members.toSettings rest

end

end Termbase.Toml
