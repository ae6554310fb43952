import Laoke.Toml.Scan

/-!
# Strings and keys of a settings text

A string stands between double quotes, with escapes, or between single quotes,
without.  Three quotes of either kind open a string that may run over several
lines; a line end right after them is not part of it, and one or two quotes may
stand anywhere inside it, also right before the three that close it.
-/

namespace Laoke.Toml

/-- The value of a hexadecimal digit. -/
def hexDigit? (c : Char) : Option Nat :=
  if '0' ≤ c && c ≤ '9' then some (c.toNat - '0'.toNat)
  else if 'a' ≤ c && c ≤ 'f' then some (c.toNat - 'a'.toNat + 10)
  else if 'A' ≤ c && c ≤ 'F' then some (c.toNat - 'A'.toNat + 10)
  else none

/-- The number that hexadecimal digits denote. -/
def hexValue? (cs : List Char) : Option Nat :=
  cs.foldl (fun value? c => do return 16 * (← value?) + (← hexDigit? c)) (some 0)

/-- Reads a character given by its code point in `n` digits. -/
def codePoint (n : Nat) : Scan Char := fun cs => do
  let digits := cs.take n
  guard (digits.length = n)
  let value ← hexValue? digits
  guard (value < 0xD800 || (0xE000 ≤ value && value < 0x110000))
  return (Char.ofNat value, cs.drop n)

/-- Reads what follows a backslash. -/
def escape : Scan Char := fun cs =>
  match cs with
  | 'b' :: rest => some ('\x08', rest)
  | 'f' :: rest => some ('\x0c', rest)
  | 'n' :: rest => some ('\n', rest)
  | 'r' :: rest => some ('\r', rest)
  | 't' :: rest => some ('\t', rest)
  | '"' :: rest => some ('"', rest)
  | '\\' :: rest => some ('\\', rest)
  | 'u' :: rest => codePoint 4 rest
  | 'U' :: rest => codePoint 8 rest
  | _ => none

/-- Reads a character of a double-quoted string. -/
def basicStep : List Char → Step Char
  | [] => .fail
  | '"' :: _ => .stop
  | '\\' :: rest =>
    match escape rest with
    | some (c, after) => .read c after
    | none => .fail
  | c :: rest => if isPlain c then .read c rest else .fail

/-- Reads a double-quoted string after its opening quote. -/
def basicString : Scan String := fun cs => do
  let (text, rest) ← many basicStep cs
  let ((), after) ← char '"' rest
  return (String.ofList text, after)

/-- Reads a single-quoted string after its opening quote. -/
def literalString : Scan String := fun cs => do
  let text := cs.takeWhile fun c => isPlain c && c ≠ '\''
  let ((), after) ← char '\'' (cs.drop text.length)
  return (String.ofList text, after)

/-- Skips blanks and line ends. -/
def skipLines : List Char → List Char
  | '\r' :: '\n' :: rest => skipLines rest
  | c :: rest => if isBlank c || c = '\n' then skipLines rest else c :: rest
  | [] => []

/-- Where a string goes on if only blanks follow a backslash on its line: at the next character
that is neither blank nor line end. -/
def continued? (cs : List Char) : Option (List Char) :=
  (newline? (cs.dropWhile isBlank)).map skipLines

/-- Reads a piece of a string between three quotes. -/
def longStep (quote : Char) (cs : List Char) : Step (List Char) :=
  match cs with
  | [] => .fail
  | c :: rest =>
    if c = quote then
      let run := cs.takeWhile (· = quote)
      if 3 ≤ run.length then .stop else .read run (cs.drop run.length)
    else if c = '\\' && quote = '"' then
      match continued? rest with
      | some after => .read [] after
      | none =>
        match escape rest with
        | some (d, after) => .read [d] after
        | none => .fail
    else
      match newline? cs with
      | some after => .read ['\n'] after
      | none => if isPlain c then .read [c] rest else .fail

/-- Reads a string after the three quotes that open it. -/
def longString (quote : Char) : Scan String := fun cs => do
  let (pieces, rest) ← many (longStep quote) ((newline? cs).getD cs)
  let extra := min ((rest.takeWhile (· = quote)).length - 3) 2
  return (String.ofList (pieces.flatten ++ List.replicate extra quote), rest.drop (extra + 3))

/-- Reads a string of any kind. -/
def string : Scan String := fun cs =>
  match cs with
  | '"' :: '"' :: '"' :: rest => longString '"' rest
  | '"' :: rest => basicString rest
  | '\'' :: '\'' :: '\'' :: rest => longString '\'' rest
  | '\'' :: rest => literalString rest
  | _ => none

/-- Whether a character may stand in a key without quotes. -/
def isBareKey (c : Char) : Bool :=
  c.isAlphanum || c = '-' || c = '_'

/-- Reads one part of a key. -/
def simpleKey : Scan String := fun cs =>
  match cs with
  | '"' :: rest => basicString rest
  | '\'' :: rest => literalString rest
  | _ =>
    let key := cs.takeWhile isBareKey
    if key.isEmpty then none else some (String.ofList key, cs.drop key.length)

/-- Reads one part of a key and the blanks around it. -/
def paddedKey : Scan String := do
  blanks
  let key ← simpleKey
  blanks
  return key

/-- Reads a further part of a key after a dot. -/
def keyStep : List Char → Step String
  | '.' :: rest =>
    match paddedKey rest with
    | some (key, after) => .read key after
    | none => .fail
  | _ => .stop

/-- The number of parts that no key may reach, and of brackets that no value may open. -/
def depthLimit : Nat := 80

/-- Reads a key: its parts, divided by dots. -/
def keyPath : Scan (List String) := fun cs => do
  let (first, rest) ← paddedKey cs
  let (more, after) ← many keyStep rest
  guard (more.length + 1 < depthLimit)
  return (first :: more, after)

end Laoke.Toml
