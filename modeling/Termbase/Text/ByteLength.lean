namespace Termbase.Text

/-- The leading characters whose UTF-8 forms together take at most `limit` bytes. -/
def fitting : Nat → List Char → List Char
  | _, [] => []
  | limit, c :: cs =>
    if c.utf8Size ≤ limit then c :: fitting (limit - c.utf8Size) cs else []

/-- The longest leading part of `text`, in whole characters, that takes at most `limit` bytes. -/
def takeBytes (limit : Nat) (text : String) : String :=
  String.ofList (fitting limit text.toList)

/-- The most bytes of a text that are kept. -/
def keptBytes : Nat := 255

/-- The part of a text that is interned. -/
def kept (text : String) : String := takeBytes keptBytes text

end Termbase.Text
