/-!
# Strings of a script

A string stands between double quotes.  Quotes, backslashes, line ends and tabs
inside it are escaped, so a string never breaks its line; every other character
stands for itself.
-/

namespace Laoke.Script

/-- A character inside a string. -/
def escapeChar (c : Char) : List Char :=
  if c = '"' then ['\\', '"']
  else if c = '\\' then ['\\', '\\']
  else if c = '\n' then ['\\', 'n']
  else if c = '\r' then ['\\', 'r']
  else if c = '\t' then ['\\', 't']
  else [c]

/-- The characters of a string literal, quotes included. -/
def literalChars (cs : List Char) : List Char :=
  '"' :: cs.flatMap escapeChar ++ ['"']

/-- The string literal that denotes a text. -/
def literal (s : String) : String :=
  String.ofList (literalChars s.toList)

/-- What a character denotes after a backslash. -/
def unescape? : Char → Option Char
  | 'n' => some '\n'
  | 'r' => some '\r'
  | 't' => some '\t'
  | '"' => some '"'
  | '\\' => some '\\'
  | _ => none

/-- Why the text after an opening quote is no string. -/
inductive LiteralFault where
  | invalidEscape (c : Char)
  | unterminated
  deriving DecidableEq, Repr

/-- Reads a string after its opening quote: the text it denotes and what follows it. -/
def readLiteral : List Char → Except LiteralFault (List Char × List Char)
  | [] => .error .unterminated
  | '"' :: rest => .ok ([], rest)
  | ['\\'] => .error .unterminated
  | '\\' :: c :: rest =>
    match unescape? c with
    | none => .error (.invalidEscape c)
    | some d =>
      match readLiteral rest with
      | .ok (text, after) => .ok (d :: text, after)
      | .error fault => .error fault
  | c :: rest =>
    match readLiteral rest with
    | .ok (text, after) => .ok (c :: text, after)
    | .error fault => .error fault

theorem length_lt_of_readLiteral {cs text rest : List Char}
    (h : readLiteral cs = .ok (text, rest)) : rest.length < cs.length := by
  fun_induction readLiteral cs generalizing text rest with
  | case1 => simp at h
  | case2 => simp_all
  | case3 => simp at h
  | case4 => simp at h
  | case5 c rest' d hd text' after hr ih =>
    simp only [Except.ok.injEq, Prod.mk.injEq] at h
    have := ih hr
    simp only [List.length_cons, ← h.2]
    omega
  | case6 => simp at h
  | case7 c rest' _ _ _ text' after hr ih =>
    simp only [Except.ok.injEq, Prod.mk.injEq] at h
    have := ih hr
    simp only [List.length_cons, ← h.2]
    omega
  | case8 => simp at h

end Laoke.Script
