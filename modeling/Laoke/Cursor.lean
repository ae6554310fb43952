import Laoke.Program.Reader

/-!
# A position in a list of tokens

A cursor may stand anywhere, also behind the last token.  Readers run from the
tokens that remain, and the cursor moves by as many tokens as they read, whether
they succeed or fail.
-/

namespace Laoke

/-- A position in a list of tokens. -/
structure Cursor where
  tokens : List Token
  position : Nat := 0
  deriving DecidableEq, Repr

namespace Cursor

/-- The tokens that are not read yet. -/
def remaining (c : Cursor) : List Token :=
  c.tokens.drop c.position

/-- Whether no token is left. -/
def atEnd (c : Cursor) : Bool :=
  c.tokens.length ≤ c.position

/-- The token at the cursor. -/
def current? (c : Cursor) : Option Token :=
  c.remaining.head?

/-- The error of wanting something else at the cursor. -/
def error (c : Cursor) (wanted : Expectation) : ParseError :=
  match c.current? with
  | some found => .unexpectedToken wanted found c.position
  | none => .unexpectedEnd wanted

/-- The cursor placed so that exactly the tokens `rest` remain of those now remaining. -/
def advance (c : Cursor) (rest : List Token) : Cursor :=
  { c with position := c.position + (c.remaining.length - rest.length) }

/-- Runs a reader from the cursor. -/
def read {α : Type} (c : Cursor) (reader : Reader α) : Except ParseError α × Cursor :=
  match reader c.remaining with
  | .ok value rest => (.ok value, c.advance rest)
  | .error wanted rest => (.error ((c.advance rest).error wanted), c.advance rest)

/-- Takes the token at the cursor. -/
def bump (c : Cursor) : Option Token × Cursor :=
  match c.remaining with
  | t :: rest => (some t, c.advance rest)
  | [] => (none, c)

/-- Whether the given keyword stands at the cursor. -/
def isAt (c : Cursor) (k : Keyword) : Bool :=
  c.current? = some (.keyword k)

/-- Takes the given keyword if it stands at the cursor. -/
def skip (c : Cursor) (k : Keyword) : Bool × Cursor :=
  if c.isAt k then (true, c.bump.2) else (false, c)

/-- Takes an identifier if one stands at the cursor. -/
def identifier? (c : Cursor) : Option String × Cursor :=
  match c.current? with
  | some (.identifier x) => (some x, c.bump.2)
  | _ => (none, c)

/-- The cursor moved to a given position. -/
def moveTo (c : Cursor) (position : Nat) : Cursor :=
  { c with position }

end Cursor

end Laoke
