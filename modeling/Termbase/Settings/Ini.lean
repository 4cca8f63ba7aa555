import Termbase.Ascending
import Termbase.Settings.Scan
import Termbase.Settings.Setting

namespace Termbase.Ini

def isLineEnd (c : Char) : Bool := c = '\n' || c = '\r'

def isSpace (c : Char) : Bool :=
  c = ' ' || ('\t' ≤ c && c ≤ '\r') || c = '\x85' || c = '\xa0' || c = '\u1680' ||
    ('\u2000' ≤ c && c ≤ '\u200a') || c = '\u2028' || c = '\u2029' || c = '\u202f' ||
    c = '\u205f' || c = '\u3000'

/-- Passes over white space and tells whether a line starts there. -/
def skipSpace (isStart : Bool) : List Char → Bool × List Char
  | [] => (isStart, [])
  | c :: rest => if isSpace c then skipSpace (c = '\n') rest else (isStart, c :: rest)

def trimStart (s : List Char) : List Char := s.dropWhile isSpace

def trimEnd (s : List Char) : List Char := (s.reverse.dropWhile isSpace).reverse

def trim (s : List Char) : List Char := trimEnd (trimStart s)

def escaped (c : Char) : Option Char :=
  match c with
  | '0' => some '\x00'
  | 'a' => some '\x07'
  | 'b' => some '\x08'
  | 't' => some '\t'
  | 'r' => some '\r'
  | 'n' => some '\n'
  | '\n' => none
  | c => some c

/-- The character with a code point in hexadecimal digits, which may have a plus sign. -/
def codePoint? : List Char → Option Char
  | '+' :: digits => Scan.codePoint? digits
  | digits => Scan.codePoint? digits

/-- Reads up to one of the characters that end it, `done` being the characters so far in reverse.
`mayFinish` tells whether the end of the text ends it too. A backslash at the end stands for
itself. -/
def scan (isEnd : Char → Bool) (mayFinish : Bool) (done : List Char) :
    List Char → Option (List Char × List Char)
  | [] => if mayFinish then some (done.reverse, []) else none
  | '\\' :: 'x' :: a :: b :: c :: d :: rest => do
    scan isEnd mayFinish ((← codePoint? [a, b, c, d]) :: done) rest
  | '\\' :: [] => if mayFinish then some (('\\' :: done).reverse, []) else none
  | '\\' :: c :: rest =>
    if c = 'x' then none else scan isEnd mayFinish ((escaped c).toList ++ done) rest
  | c :: rest =>
    if isEnd c then some (done.reverse, c :: rest) else scan isEnd mayFinish (c :: done) rest

def line? : Scan (List Char) := scan isLineEnd true []

def isQuote (c : Char) : Bool := c = '"' || c = '\x27'

/-- Reads what stands in quotes, if a text starts with a quote. Lines do not end there. -/
def quoted? : Scan (List Char)
  | [] => some ([], [])
  | c :: rest =>
    if isQuote c then (scan (· = c) false [] rest).map fun r => (r.1, r.2.tail)
    else some ([], c :: rest)

/-- Reads a value up to the end of its line. White space around it goes, within quotes too. -/
def value? : Scan (List Char) := fun s => do
  let (quoted, rest) ← quoted? s
  let (plain, rest) ← line? rest
  return (trim (quoted ++ plain), rest)

/-- What has been read: the settings outside any group, the groups, and the name of the group that
is being read. -/
structure Progress where
  general : List (String × Setting)
  groups : List (String × List (String × Setting))
  group : Option String

namespace Progress

/-- Starts a group. It takes the place of one with the same name. -/
def enter (progress : Progress) (name : String) : Progress :=
  { progress with groups := assign name [] progress.groups, group := some name }

def add (progress : Progress) (name value : String) : Progress :=
  match progress.group with
  | none => { progress with general := progress.general ++ [(name, Setting.text value)] }
  | some group =>
    let members := (progress.groups.lookup group).getD [] ++ [(name, Setting.text value)]
    { progress with groups := assign group members progress.groups }

def settings (progress : Progress) : List (String × Setting) :=
  progress.general ++ progress.groups.map fun group => (group.1, .table group.2)

end Progress

/-- Reads entries and names of groups, at most `fuel` of them. A comment fills its line, with
nothing before it. -/
def entries? : (fuel : Nat) → (isStart : Bool) → Progress → List Char → Option Progress
  | 0, _, _, _ => none
  | fuel + 1, isStart, progress, s =>
    match skipSpace isStart s with
    | (_, []) => some progress
    | (isStart, c :: rest) =>
      if c = ';' ∨ c = '#' then
        if isStart then entries? fuel true progress ((rest.dropWhile (· ≠ '\n')).drop 1) else none
      else if c = '[' then do
        let (name, rest) ← scan (· = ']') false [] rest
        entries? fuel false (progress.enter (String.ofList (trim name))) rest.tail
      else do
        let (name, rest) ← scan (fun c => c = '=' || c = ':') false [] (c :: rest)
        let name := trim name
        if name.isEmpty then none
        else
          let rest := rest.tail.dropWhile fun c => isSpace c && !isLineEnd c
          let (value, rest) ← value? rest
          entries? fuel false (progress.add (String.ofList name) (String.ofList value)) rest

def read? (text : String) : Option (List (String × Setting)) := do
  let progress ← entries? (text.length + 1) true ⟨[], [], none⟩ text.toList
  return progress.settings

end Termbase.Ini
