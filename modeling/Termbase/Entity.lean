import Termbase.Number.Digits
import Termbase.Text.Quoted

namespace Termbase

inductive EntityKind where
  | item
  | property
  deriving DecidableEq, Repr

namespace EntityKind

def all : List EntityKind := [.item, .property]

def name : EntityKind → String
  | .item => "item"
  | .property => "property"

def ofName? (name : String) : Option EntityKind := all.find? fun kind => kind.name = name

def letter : EntityKind → Char
  | .item => 'Q'
  | .property => 'P'

def ofLetter? (c : Char) : Option EntityKind :=
  if c = 'Q' ∨ c = 'q' then some .item
  else if c = 'P' ∨ c = 'p' then some .property
  else none

def rank : EntityKind → Nat
  | .item => 0
  | .property => 1

end EntityKind

structure EntityId where
  kind : EntityKind
  number : UInt32
  deriving DecidableEq, Repr

namespace EntityId

/-- Entities are ordered by kind, then by number. -/
instance : LT EntityId :=
  ⟨fun a b => a.kind.rank < b.kind.rank ∨ a.kind = b.kind ∧ a.number < b.number⟩

instance (a b : EntityId) : Decidable (a < b) :=
  inferInstanceAs (Decidable (a.kind.rank < b.kind.rank ∨ a.kind = b.kind ∧ a.number < b.number))

def text (entity : EntityId) : String :=
  String.ofList (entity.kind.letter :: Number.digits entity.number.toNat)

/-- Reads the number after the letter of a kind. It may have a plus sign, and only after one may
it start with a zero. -/
def numberOf? (cs : List Char) : Option UInt32 :=
  if cs.head? = some '0' then none else (Number.unsigned? (Number.twoTo 32) cs).map UInt32.ofNat

def ofText? (text : String) : Option EntityId :=
  match text.toList with
  | [] => none
  | c :: cs =>
    match EntityKind.ofLetter? c, numberOf? cs with
    | some kind, some number => some ⟨kind, number⟩
    | _, _ => none

def refusal (text : String) : String := "invalid entity id: " ++ Text.quoted text

end EntityId

end Termbase
