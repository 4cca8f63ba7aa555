import Termbase.Json.Fault

namespace Termbase.Json

/-- The four characters that may stand between the parts of a JSON text. -/
def isBlank (c : Char) : Bool := c = ' ' || c = '\n' || c = '\t' || c = '\r'

def skipBlanks (s : List Char) : List Char := s.dropWhile isBlank

/-- The character that a backslash and a letter other than `u` stand for. -/
def shortEscape? : Char → Option Char
  | '"' => some '"'
  | '\\' => some '\\'
  | '/' => some '/'
  | 'b' => some '\x08'
  | 'f' => some '\x0c'
  | 'n' => some '\n'
  | 'r' => some '\r'
  | 't' => some '\t'
  | _ => none

def hexFour? (a b c d : Char) : Option Nat :=
  match Number.hexDigit? a, Number.hexDigit? b, Number.hexDigit? c, Number.hexDigit? d with
  | some a, some b, some c, some d => some (((a * 16 + b) * 16 + c) * 16 + d)
  | _, _, _, _ => none

/-- The fault of fewer than four characters where four hexadecimal digits belong: the text has
ended if they also take fewer than four bytes. -/
def shortHexFault (s : List Char) : Fault :=
  if (String.ofList s).utf8ByteSize < 4 then .unfinished else .malformed

def isHighSurrogate (n : Nat) : Bool := 0xd800 ≤ n && n ≤ 0xdbff

def isLowSurrogate (n : Nat) : Bool := 0xdc00 ≤ n && n ≤ 0xdfff

def surrogatePair (high low : Nat) : Char :=
  Char.ofNat ((high - 0xd800) * 0x400 + (low - 0xdc00) + 0x10000)

/-- Reads a JSON string after its opening quote, `done` being its characters so far in reverse.
Gives the whole string and the text after its closing quote. -/
def scanText (done : List Char) : List Char → Except Fault (List Char × List Char)
  | [] => .error .unfinished
  | '"' :: rest => .ok (done.reverse, rest)
  | ['\\'] => .error .unfinished
  | '\\' :: 'u' :: a :: b :: c :: d :: rest =>
    match hexFour? a b c d with
    | none => .error .malformed
    | some n =>
      if isLowSurrogate n then .error .malformed
      else if isHighSurrogate n then
        match rest with
        | [] => .error .unfinished
        | ['\\'] => .error .unfinished
        | '\\' :: 'u' :: e :: f :: g :: h :: after =>
          match hexFour? e f g h with
          | none => .error .malformed
          | some m =>
            if isLowSurrogate m then scanText (surrogatePair n m :: done) after
            else .error .malformed
        | '\\' :: 'u' :: short => .error (shortHexFault short)
        | _ => .error .malformed
      else scanText (Char.ofNat n :: done) rest
  | '\\' :: 'u' :: short => .error (shortHexFault short)
  | '\\' :: c :: rest =>
    match shortEscape? c with
    | some d => scanText (d :: done) rest
    | none => .error .malformed
  | c :: rest => if c.toNat < 32 then .error .malformed else scanText (c :: done) rest

/-- Passes over a JSON string after its opening quote. Its characters are not wanted, so the code
points of its escapes may be anything. -/
def skipText : List Char → Except Fault (List Char)
  | [] => .error .unfinished
  | '"' :: rest => .ok rest
  | ['\\'] => .error .unfinished
  | '\\' :: 'u' :: a :: b :: c :: d :: rest =>
    match hexFour? a b c d with
    | none => .error .malformed
    | some _ => skipText rest
  | '\\' :: 'u' :: short => .error (shortHexFault short)
  | '\\' :: c :: rest =>
    match shortEscape? c with
    | some _ => skipText rest
    | none => .error .malformed
  | c :: rest => if c.toNat < 32 then .error .malformed else skipText rest

/-- Passes over a word whose first letter has been seen. -/
def skipWord : List Char → List Char → Except Fault (List Char)
  | [], rest => .ok rest
  | _, [] => .error .unfinished
  | letter :: letters, c :: rest =>
    if c = letter then skipWord letters rest else .error .malformed

/-- The digits of a number up to some point, as a significand below `2 ^ 64` and the number of
decimal places by which it is shifted. -/
structure Significand where
  digits : Nat
  shift : Int

def significandBound : Nat := Termbase.Number.twoTo 64

def scanWhole (value : Nat) : List Char → Significand × List Char
  | [] => (⟨value, 0⟩, [])
  | c :: rest =>
    match Number.digit? c with
    | none => (⟨value, 0⟩, c :: rest)
    | some d =>
      if value * 10 + d < significandBound then scanWhole (value * 10 + d) rest
      else
        let dropped := (c :: rest).takeWhile fun x => (Number.digit? x).isSome
        (⟨value, dropped.length⟩, rest.drop (dropped.length - 1))

/-- Takes digits after the point; those that make the significand too large are passed over. -/
def scanFraction (s : Significand) : List Char → Significand × List Char
  | [] => (s, [])
  | c :: rest =>
    match Number.digit? c with
    | none => (s, c :: rest)
    | some d =>
      if s.digits * 10 + d < significandBound then
        scanFraction ⟨s.digits * 10 + d, s.shift - 1⟩ rest
      else (s, rest.dropWhile fun x => (Number.digit? x).isSome)

def scanExponent (value : Nat) : List Char → Nat × List Char
  | [] => (value, [])
  | c :: rest =>
    match Number.digit? c with
    | none => (value, c :: rest)
    | some d => scanExponent (value * 10 + d) rest

def needDigit : List Char → Except Fault Unit
  | [] => .error .unfinished
  | c :: _ => if (Number.digit? c).isSome then .ok () else .error .malformed

/-- The double of a significand; numbers too large for one are not numbers here. -/
def realNumber (isNegative : Bool) (s : Significand) : Except Fault Number :=
  match Number.Binary64.ofDecimal? s.digits s.shift with
  | some x => .ok (.real isNegative x)
  | none => .error .malformed

def scanTail (isNegative : Bool) (s : Significand) : List Char → Except Fault (Number × List Char)
  | c :: rest =>
    if c = 'e' ∨ c = 'E' then do
      let (sign, rest) : Int × List Char := match rest with
        | '+' :: rest => (1, rest)
        | '-' :: rest => (-1, rest)
        | _ => (1, rest)
      needDigit rest
      let (exponent, rest) := scanExponent 0 rest
      let number ← realNumber isNegative ⟨s.digits, s.shift + sign * exponent⟩
      return (number, rest)
    else do
      let number ← realNumber isNegative s
      return (number, c :: rest)
  | [] => do
    let number ← realNumber isNegative s
    return (number, [])

/-- The number of an integer literal that fits the integer types, or else its double. -/
def integerNumber (isNegative : Bool) (s : Significand) : Except Fault Number :=
  if s.shift ≠ 0 then realNumber isNegative s
  else if isNegative = false then .ok (.natural s.digits)
  else if s.digits = 0 ∨ Termbase.Number.twoTo 63 < s.digits then realNumber true s
  else .ok (.negative s.digits)

/-- The digits before the point, of which there is one at least. No other one follows a zero at
their start. -/
def scanIntegral : List Char → Except Fault (Significand × List Char)
  | '0' :: rest =>
    match needDigit rest with
    | .ok _ => .error .malformed
    | .error _ => .ok (⟨0, 0⟩, rest)
  | s => .ok (scanWhole 0 s)

/-- The number whose digits before the point are `whole`. -/
def scanFurther (isNegative : Bool) (whole : Significand) (s : List Char) :
    Except Fault (Number × List Char) :=
  match s with
  | '.' :: fraction => do
    needDigit fraction
    let (significand, rest) := scanFraction whole fraction
    scanTail isNegative significand rest
  | 'e' :: _ => scanTail isNegative whole s
  | 'E' :: _ => scanTail isNegative whole s
  | _ => do
    let number ← integerNumber isNegative whole
    return (number, s)

def scanUnsigned (isNegative : Bool) (s : List Char) : Except Fault (Number × List Char) := do
  needDigit s
  let (whole, rest) ← scanIntegral s
  scanFurther isNegative whole rest

def scanNumber : List Char → Except Fault (Number × List Char)
  | '-' :: rest => scanUnsigned true rest
  | s => scanUnsigned false s

def skipDigits : List Char → Except Fault (List Char)
  | [] => .error .malformed
  | c :: rest =>
    if (Number.digit? c).isSome then .ok (rest.dropWhile fun x => (Number.digit? x).isSome)
    else .error .malformed

/-- Passes over a number after its sign; it may be of any size, and one that stops short is not
JSON even at the end of the text. -/
def skipUnsigned (s : List Char) : Except Fault (List Char) := do
  let rest ← skipDigits s
  let isSingle := rest.length + 1 = s.length
  if s.head? = some '0' ∧ ¬ isSingle then .error .malformed
  let rest ← match rest with
    | '.' :: fraction => skipDigits fraction
    | _ => pure rest
  match rest with
  | c :: exponent =>
    if c = 'e' ∨ c = 'E' then
      match exponent with
      | '+' :: rest => skipDigits rest
      | '-' :: rest => skipDigits rest
      | _ => skipDigits exponent
    else return rest
  | [] => return rest

end Termbase.Json
