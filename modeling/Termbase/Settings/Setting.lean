import Termbase.Settings.Scalar

namespace Termbase

inductive Setting where
  | nothing
  | scalar (value : Scalar)
  | list (items : List Setting)
  | table (members : List (String × Setting))

namespace Setting

def text (s : String) : Setting := .scalar (.text s)

def members? : Setting → Option (List (String × Setting))
  | .table members => some members
  | _ => none

end Setting

inductive Flaw where
  /-- The text breaks the rules of its format, or gives no table. -/
  | unreadable
  /-- A key of an entry is neither a text nor an integer. -/
  | oddKey
  deriving DecidableEq, Repr

def Flaw.orUnreadable {α : Type} : Option α → Except Flaw α
  | some x => .ok x
  | none => .error .unreadable

end Termbase
