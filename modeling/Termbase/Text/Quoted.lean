import Termbase.Number.Digits
import Termbase.Text.Extending

namespace Termbase.Text

/-- A character by its code point, as `\u\x7bhex\x7d`. -/
def codePointEscape (c : Char) : List Char :=
  ['\\', 'u', '\x7b'] ++ Number.hexDigits c.toNat ++ ['\x7d']

/-- A character inside a quoted text: quotes, backslashes and the common controls by a
backslash, whatever cannot be seen on its own by its code point, all else as it is. -/
def quotedChar (c : Char) : List Char :=
  if c = '"' then ['\\', '"']
  else if c = '\\' then ['\\', '\\']
  else if c = '\x00' then ['\\', '0']
  else if c = '\t' then ['\\', 't']
  else if c = '\n' then ['\\', 'n']
  else if c = '\r' then ['\\', 'r']
  else if isExtending c || isUnprintable c then codePointEscape c
  else [c]

def quoted (text : String) : String :=
  String.ofList (('"' :: text.toList.flatMap quotedChar) ++ ['"'])

end Termbase.Text
