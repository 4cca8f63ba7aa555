import Termbase.Number.Digits

namespace Termbase

/-- Reads something from the front of a text and gives the text after it. -/
abbrev Scan (α : Type) := List Char → Option (α × List Char)

namespace Scan

/-- Reads items with commas between them up to a closing bracket. `skip` passes over what may
stand around an item, and `spareComma` tells whether a comma may follow the last item. `fuel`
bounds the number of items; the length of the text is enough. -/
def items {α : Type} (skip : List Char → List Char) (closing : Char) (spareComma : Bool)
    (item : Scan α) : (fuel : Nat) → Scan (List α)
  | 0, _ => none
  | fuel + 1, s => do
    let s := skip s
    if s.head? = some closing then return ([], s.tail)
    else
      let (x, rest) ← item s
      match skip rest with
      | ',' :: rest =>
        if !spareComma && (skip rest).head? = some closing then none
        else
          let (xs, rest) ← items skip closing spareComma item fuel rest
          return (x :: xs, rest)
      | c :: rest => if c = closing then some ([x], rest) else none
      | [] => none

def codePoint? (digits : List Char) : Option Char := do
  let n ← Number.numeral? 16 digits
  if n.isValidChar then some (Char.ofNat n) else none

end Scan

end Termbase
