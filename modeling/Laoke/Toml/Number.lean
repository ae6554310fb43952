import Laoke.Bounds
import Laoke.Toml.Text

/-!
# Numbers and dates of a settings text

No setting is a date or a number with a fraction, so these are checked for their
form and their range and not kept.
-/

namespace Laoke.Toml

/-- Reads the digits that follow a first one; single underscores may stand between digits. -/
def moreDigits (isDigit : Char → Bool) : List Char → List Char × List Char
  | [] => ([], [])
  | '_' :: c :: rest =>
    if isDigit c then
      let (digits, after) := moreDigits isDigit rest
      (c :: digits, after)
    else ([], '_' :: c :: rest)
  | c :: rest =>
    if isDigit c then
      let (digits, after) := moreDigits isDigit rest
      (c :: digits, after)
    else ([], c :: rest)

/-- Reads digits, at least one. -/
def digits (isDigit : Char → Bool) : Scan (List Char) := fun cs =>
  match cs with
  | c :: rest =>
    if isDigit c then
      let (more, after) := moreDigits isDigit rest
      some (c :: more, after)
    else none
  | [] => none

/-- The number that digits denote. -/
def valueIn (base : Nat) (digits : List Char) : Nat :=
  digits.foldl (fun value c => base * value + (hexDigit? c).getD 0) 0

/-- A decimal number without its sign. -/
structure Signed where
  negative : Bool
  digits : List Char

/-- Reads an optional sign. -/
def sign : Scan Bool := fun cs =>
  match cs with
  | '-' :: rest => some (true, rest)
  | '+' :: rest => some (false, rest)
  | _ => some (false, cs)

/-- Reads a decimal integer: a zero stands alone. -/
def decimal : Scan Signed := do
  let negative ← sign
  let digits ← fun cs =>
    match cs with
    | '0' :: rest => some (['0'], rest)
    | _ => digits Char.isDigit cs
  return ⟨negative, digits⟩

/-- Keeps a number that is an integer of the language. -/
def bounded (n : Int) : Scan Int := do
  guard (inBounds n)
  return n

/-- Reads an integer. -/
def integer : Scan Int := fun cs =>
  match cs with
  | '0' :: 'x' :: rest => (do
    let ds ← digits fun c => (hexDigit? c).isSome
    bounded (valueIn 16 ds) : Scan Int) rest
  | '0' :: 'o' :: rest => (do
    let ds ← digits fun c => '0' ≤ c && c ≤ '7'
    bounded (valueIn 8 ds) : Scan Int) rest
  | '0' :: 'b' :: rest => (do
    let ds ← digits fun c => c = '0' || c = '1'
    bounded (valueIn 2 ds) : Scan Int) rest
  | _ => (do
    let n ← decimal
    let value : Int := valueIn 10 n.digits
    bounded (if n.negative then -value else value) : Scan Int) cs

/-- Whether the number `m * 10 ^ e` is too large for a float: it reaches the midpoint between the
greatest float and the next power of two. -/
def exceedsFloat (m : Nat) (e : Int) : Bool :=
  let limit := Nat.pow 2 1024 - Nat.pow 2 970
  let places : Int := (Nat.toDigits 10 m).length + e
  if m = 0 then false
  else if places ≤ 308 then false
  else if 310 ≤ places then true
  else if 0 ≤ e then limit ≤ m * Nat.pow 10 e.toNat
  else limit * Nat.pow 10 (-e).toNat ≤ m

/-- Reads the exponent of a float, if there is one. -/
def exponent? : Scan (Option Int) := fun cs =>
  match cs with
  | c :: rest =>
    if c = 'e' || c = 'E' then (do
      let negative ← sign
      let ds ← digits Char.isDigit
      let value : Int := valueIn 10 ds
      return some (if negative then -value else value) : Scan (Option Int)) rest
    else some (none, cs)
  | [] => some (none, [])

/-- Reads a float in digits.  A fraction or an exponent makes it one. -/
def digitFloat : Scan Unit := do
  let n ← decimal
  let fraction ← fun cs =>
    match cs with
    | '.' :: rest => digits Char.isDigit rest
    | _ => some ([], cs)
  let exponent ← exponent?
  guard (!fraction.isEmpty || exponent.isSome)
  let m := valueIn 10 (n.digits ++ fraction)
  guard (n.negative || !exceedsFloat m (exponent.getD 0 - fraction.length))

/-- Reads a float that is written as a word. -/
def wordFloat : Scan Unit := do
  let _ ← sign
  fun cs => (word ['i', 'n', 'f'] cs).or (word ['n', 'a', 'n'] cs)

/-- Reads a number of exactly `n` digits. -/
def fixedDigits (n : Nat) : Scan Nat := fun cs => do
  let ds := cs.take n
  guard (ds.length = n && ds.all Char.isDigit)
  return (valueIn 10 ds, cs.drop n)

/-- The number of days in a month. -/
def daysIn (year month : Nat) : Nat :=
  if month = 2 then
    if year % 4 = 0 && (year % 100 ≠ 0 || year % 400 = 0) then 29 else 28
  else if month = 4 || month = 6 || month = 9 || month = 11 then 30
  else 31

/-- Reads a day of the calendar. -/
def date : Scan Unit := do
  let year ← fixedDigits 4
  char '-'
  let month ← fixedDigits 2
  guard (1 ≤ month && month ≤ 12)
  char '-'
  let day ← fixedDigits 2
  guard (1 ≤ day && day ≤ daysIn year month)

/-- Reads hours and minutes. -/
def hourMinute : Scan Unit := do
  let hour ← fixedDigits 2
  guard (hour ≤ 23)
  char ':'
  let minute ← fixedDigits 2
  guard (minute ≤ 59)

/-- Skips the fraction of a second, if there is one. -/
def secondFraction : Scan Unit := fun cs =>
  match cs with
  | '.' :: c :: rest => if c.isDigit then some ((), rest.dropWhile Char.isDigit) else some ((), cs)
  | _ => some ((), cs)

/-- Reads a time of the day. -/
def time : Scan Unit := do
  hourMinute
  char ':'
  let second ← fixedDigits 2
  guard (second ≤ 60)
  secondFraction

/-- Skips the offset of a time, if there is one. -/
def offset : Scan Unit := fun cs =>
  match cs with
  | [] => some ((), [])
  | c :: rest =>
    if c = 'Z' || c = 'z' then some ((), rest)
    else if c = '+' || c = '-' then hourMinute rest
    else some ((), cs)

/-- Skips the time after a date, if there is one. -/
def timeAfterDate : Scan Unit := fun cs =>
  match cs with
  | [] => some ((), [])
  | c :: rest =>
    if c = 'T' || c = 't' || c = ' ' then
      match time rest with
      | some ((), after) => offset after
      | none => some ((), cs)
    else some ((), cs)

/-- Reads a date, a time, or both. -/
def dateTime : Scan Unit := fun cs =>
  ((do date; timeAfterDate : Scan Unit) cs).or (time cs)

end Laoke.Toml
