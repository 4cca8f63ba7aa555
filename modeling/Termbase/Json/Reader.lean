import Termbase.Json.Lexical

namespace Termbase.Json

/-- Reads a value from the front of a text and gives the text after it. -/
abbrev Reader (α : Type) := List Char → Except Fault (α × List Char)

/-- The fault of a text that goes on, after blanks, with something other than what is expected
there. The value that is found is read as far as its description needs. -/
def unexpectedFault (expected : String) : List Char → Fault
  | [] => .unfinished
  | c :: rest =>
    let found : Except Fault Found :=
      if c = 'n' then (skipWord ['u', 'l', 'l'] rest).map fun _ => .null
      else if c = 't' then (skipWord ['r', 'u', 'e'] rest).map fun _ => .boolean true
      else if c = 'f' then (skipWord ['a', 'l', 's', 'e'] rest).map fun _ => .boolean false
      else if c = '-' ∨ (Number.digit? c).isSome then
        (scanNumber (c :: rest)).map fun r => .number r.1
      else if c = '"' then (scanText [] rest).map fun r => .text (String.ofList r.1)
      else if c = '[' then .ok .sequence
      else if c = '\x7b' then .ok .map
      else .error .malformed
    match found with
    | .ok found => .unexpected found expected
    | .error fault => fault

def readText (expected : String) : Reader String := fun s =>
  match skipBlanks s with
  | '"' :: rest => (scanText [] rest).map fun r => (String.ofList r.1, r.2)
  | s => .error (unexpectedFault expected s)

def readInteger (expected : String) (fits : Int → Bool) : Reader Int := fun s =>
  match skipBlanks s with
  | c :: rest =>
    if c = '-' ∨ (Number.digit? c).isSome then
      match scanNumber (c :: rest) with
      | .error fault => .error fault
      | .ok (.natural n, after) =>
        if fits n then .ok (n, after) else .error (.outOfRange n expected)
      | .ok (.negative n, after) =>
        if fits (-n) then .ok (-n, after) else .error (.outOfRange (-n) expected)
      | .ok (number, _) => .error (.unexpected (.number number) expected)
    else .error (unexpectedFault expected (c :: rest))
  | [] => .error .unfinished

def readSigned64 : Reader Int64 := fun s =>
  let fits := fun n => decide (-(Number.twoTo 63 : Int) ≤ n) && decide (n < Number.twoTo 63)
  (readInteger "i64" fits s).map fun r => (Int64.ofInt r.1, r.2)

def readColon (s : List Char) : Except Fault (List Char) :=
  match skipBlanks s with
  | [] => .error .unfinished
  | c :: rest => if c = ':' then .ok rest else .error .malformed

/-- Reads the items of an array after its opening bracket, each one changing `state`. `fuel`
bounds the number of items; the length of the text is enough. -/
def foldItems {σ : Type} (item : σ → Reader σ) : (fuel : Nat) → (isFirst : Bool) → σ → Reader σ
  | 0, _, _, _ => .error .unfinished
  | fuel + 1, isFirst, state, s =>
    let next (s : List Char) : Except Fault (σ × List Char) :=
      match item state s with
      | .error fault => .error fault
      | .ok (state, rest) => foldItems item fuel false state rest
    match skipBlanks s with
    | [] => .error .unfinished
    | c :: rest =>
      if c = ']' then .ok (state, rest)
      else if isFirst then next (c :: rest)
      else if c = ',' then
        match skipBlanks rest with
        | [] => .error .unfinished
        | d :: rest => if d = ']' then .error .malformed else next (d :: rest)
      else .error .malformed

/-- Reads the members of an object after its opening brace. `member` starts after the opening
quote of a name and changes `state`. `fuel` bounds the number of members; the length of the text
is enough. -/
def foldMembers {σ : Type} (member : σ → Reader σ) :
    (fuel : Nat) → (isFirst : Bool) → σ → Reader σ
  | 0, _, _, _ => .error .unfinished
  | fuel + 1, isFirst, state, s =>
    let next (s : List Char) : Except Fault (σ × List Char) :=
      match s with
      | [] => .error .unfinished
      | c :: rest =>
        if c = '"' then
          match member state rest with
          | .error fault => .error fault
          | .ok (state, rest) => foldMembers member fuel false state rest
        else .error .malformed
    match skipBlanks s with
    | [] => .error .unfinished
    | c :: rest =>
      if c = '\x7d' then .ok (state, rest)
      else if isFirst then next (c :: rest)
      else if c = ',' then next (skipBlanks rest)
      else .error .malformed

def readItems {σ : Type} (expected : String) (empty : σ) (item : σ → Reader σ) : Reader σ :=
  fun s =>
    match skipBlanks s with
    | '[' :: rest => foldItems item s.length true empty rest
    | s => .error (unexpectedFault expected s)

def readMembers {σ : Type} (expected : String) (empty : σ) (member : σ → Reader σ) : Reader σ :=
  fun s =>
    match skipBlanks s with
    | '\x7b' :: rest => foldMembers member s.length true empty rest
    | s => .error (unexpectedFault expected s)

def readList {α : Type} (item : Reader α) : Reader (List α) := fun s =>
  (readItems "a sequence" []
    (fun (items : List α) s => (item s).map fun r => (r.1 :: items, r.2)) s).map fun r =>
      (r.1.reverse, r.2)

/-- Reads any value in which at most `depth` containers are nested. -/
def readValue : (depth : Nat) → Reader Value
  | depth, s =>
    match skipBlanks s with
    | [] => .error .unfinished
    | c :: rest =>
      if c = 'n' then (skipWord ['u', 'l', 'l'] rest).map fun after => (.null, after)
      else if c = 't' then (skipWord ['r', 'u', 'e'] rest).map fun after => (.boolean true, after)
      else if c = 'f' then
        (skipWord ['a', 'l', 's', 'e'] rest).map fun after => (.boolean false, after)
      else if c = '-' ∨ (Number.digit? c).isSome then
        (scanNumber (c :: rest)).map fun r => (.number r.1, r.2)
      else if c = '"' then (scanText [] rest).map fun r => (.text (String.ofList r.1), r.2)
      else if c = '[' then
        match depth with
        | 0 => .error .malformed
        | depth + 1 =>
          (foldItems (fun (items : List Value) s =>
            (readValue depth s).map fun r => (r.1 :: items, r.2)) s.length true [] rest).map
              fun r => (.sequence r.1.reverse, r.2)
      else if c = '\x7b' then
        match depth with
        | 0 => .error .malformed
        | depth + 1 =>
          (foldMembers (fun (members : List (String × Value)) s => do
            let (name, rest) ← scanText [] s
            let rest ← readColon rest
            let (value, rest) ← readValue depth rest
            return ((String.ofList name, value) :: members, rest)) s.length true [] rest).map
              fun r => (.map r.1.reverse, r.2)
      else .error .malformed

def depthLimit : Nat := 127

/-- What comes next while a value is passed over. -/
inductive Awaited where
  /-- A value, or the end of a container that has just been opened. -/
  | first
  | element
  | value
  | ending

/-- Passes over the rest of a value. `enclosing` holds its containers that are still open, innermost
first, an object as `true`. There is no limit on their number. `fuel` bounds the number of steps;
four for each character and two more are enough. -/
def skipRest :
    (fuel : Nat) → (enclosing : List Bool) → Awaited → List Char → Except Fault (List Char)
  | 0, _, _, _ => .error .malformed
  | fuel + 1, enclosing, awaited, s =>
    match awaited, enclosing with
    | .ending, [] => .ok s
    | _, _ =>
      match skipBlanks s with
      | [] => .error .unfinished
      | c :: rest =>
        let closing : Char := if enclosing.head? = some true then '\x7d' else ']'
        match awaited with
        | .first =>
          if c = closing then skipRest fuel enclosing.tail .ending rest
          else skipRest fuel enclosing .element (c :: rest)
        | .ending =>
          if c = closing then skipRest fuel enclosing.tail .ending rest
          else if c = ',' then skipRest fuel enclosing .element rest
          else .error .malformed
        | .element =>
          if enclosing.head? = some true then
            if c = '"' then do
              let rest ← skipText rest
              let rest ← readColon rest
              skipRest fuel enclosing .value rest
            else .error .malformed
          else skipRest fuel enclosing .value (c :: rest)
        | .value =>
          if c = 'n' then do skipRest fuel enclosing .ending (← skipWord ['u', 'l', 'l'] rest)
          else if c = 't' then do
            skipRest fuel enclosing .ending (← skipWord ['r', 'u', 'e'] rest)
          else if c = 'f' then do
            skipRest fuel enclosing .ending (← skipWord ['a', 'l', 's', 'e'] rest)
          else if c = '-' then do skipRest fuel enclosing .ending (← skipUnsigned rest)
          else if (Number.digit? c).isSome then do
            skipRest fuel enclosing .ending (← skipUnsigned (c :: rest))
          else if c = '"' then do skipRest fuel enclosing .ending (← skipText rest)
          else if c = '[' then skipRest fuel (false :: enclosing) .first rest
          else if c = '\x7b' then skipRest fuel (true :: enclosing) .first rest
          else .error .malformed

/-- Passes over any value, of which only the form is checked. -/
def skipValue (s : List Char) : Except Fault (List Char) :=
  skipRest (4 * s.length + 2) [] .value s

/-- Reads a whole text, in which only blanks may follow the value. -/
def readAll {α : Type} (reader : Reader α) (text : String) : Except Fault α :=
  match reader text.toList with
  | .error fault => .error fault
  | .ok (value, rest) =>
    match skipBlanks rest with
    | [] => .ok value
    | _ => .error .malformed

end Termbase.Json
