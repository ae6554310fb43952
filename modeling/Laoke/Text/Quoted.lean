import Laoke.Text.Hidden
import Laoke.Text.Mark

/-!
# Quoted text in messages

Messages show a text between double quotes, on one line and with nothing
invisible in it.  The quote, the backslash, the tab, the two line ends and the
null character have short escapes; every other character that does not print
by itself is written by its code point in hexadecimal.
-/

namespace Laoke.Text

/-- A character by its code point: lower-case hexadecimal between braces. -/
def numberedChar (c : Char) : List Char :=
  ['\\', 'u', '\x7b'] ++ Nat.toDigits 16 c.toNat ++ ['\x7d']

/-- A character as it stands between the quotes. -/
def quotedChar (c : Char) : List Char :=
  if c = '\x00' then ['\\', '0']
  else if c = '\t' then ['\\', 't']
  else if c = '\n' then ['\\', 'n']
  else if c = '\r' then ['\\', 'r']
  else if c = '"' then ['\\', '"']
  else if c = '\\' then ['\\', '\\']
  else if isMark c || isHidden c then numberedChar c
  else [c]

/-- A text between double quotes, with everything unprintable escaped. -/
def quoted (s : String) : String :=
  String.ofList ('"' :: s.toList.flatMap quotedChar ++ ['"'])

end Laoke.Text
