import Laoke.Cursor

/-!
# Reading with a cursor

The readers of expressions and statements step by step: a cursor looks at the token
before it and moves past it.  An identifier that no statement starts with is given
back by moving the cursor to where it was.  An error is made where the cursor
stands at that moment, and the cursor stays there.
-/

namespace Laoke

/-- What a statement about a variable goes on with, by the keyword behind the variable, given how to
read a keyword, an expression and the body of a loop. -/
def statementForms {m : Type → Type} [Monad m] (expect : Keyword → m Unit)
    (expression : m Expression) (body : m (List Statement)) (x : String) :
    List (Keyword × m (Option Statement)) :=
  [(.isVariable, do
      expect .period
      return some (.declare x)),
   (.become, do
      let value ← expression
      expect .period
      return some (.assign x value)),
   (.increment, do
      expect .period
      return some (.increase x .one)),
   (.incrementBy, do
      let amount ← expression
      expect .step
      expect .period
      return some (.increase x amount)),
   (.decrement, do
      expect .period
      return some (.decrease x .one)),
   (.decrementBy, do
      let amount ← expression
      expect .step
      expect .period
      return some (.decrease x amount)),
   (.startingAt, do
      let first ← expression
      expect .upTo
      let last ← expression
      expect .loop
      let statements ← body
      expect .endLoop
      return some (.loop x first last statements))]

/-- Reads by moving a cursor. -/
abbrev CursorReader := EStateM ParseError Cursor

/-- Runs a reader that moves the cursor. -/
def Cursor.run {α : Type} (c : Cursor) (reader : CursorReader α) : Except ParseError α × Cursor :=
  match reader c with
  | .ok value c => (.ok value, c)
  | .error e c => (.error e, c)

namespace CursorReader

variable {α : Type}

/-- Fails for want of something at the cursor. -/
def fail (wanted : Expectation) : CursorReader α := fun c =>
  .error (c.error wanted) c

/-- Takes the given keyword if it stands at the cursor, and says whether it did. -/
def skip (k : Keyword) : CursorReader Bool := fun c =>
  .ok (c.skip k).1 (c.skip k).2

/-- Takes an identifier if one stands at the cursor. -/
def identifier? : CursorReader (Option String) := fun c =>
  .ok c.identifier?.1 c.identifier?.2

/-- The position of the cursor. -/
def position : CursorReader Nat := fun c =>
  .ok c.position c

/-- Moves the cursor to a position. -/
def moveTo (position : Nat) : CursorReader Unit := fun c =>
  .ok () (c.moveTo position)

/-- Takes the given keyword. -/
def expect (k : Keyword) : CursorReader Unit := do
  if ← skip k then return () else fail (.keyword k)

/-- Takes a token of the given kind. -/
def expectKind (kind : TokenKind) : CursorReader Token := fun c =>
  match c.current? with
  | some t => if t.kind = kind then .ok t c.bump.2 else fail (.kind kind) c
  | none => fail (.kind kind) c

/-- Takes a token of an expression, if one stands at the cursor.  A string stands in quotes. -/
def expressionToken? : CursorReader (Option Token) := fun c =>
  match c.current? with
  | some (.keyword k) =>
    if k = .openQuote then (do
      let s ← expectKind .string
      expect .closeQuote
      return some s : CursorReader _) c.bump.2
    else if k.isOperator then .ok (some (.keyword k)) c.bump.2
    else .ok none c
  | some (.integer n) => .ok (some (.integer n)) c.bump.2
  | some (.identifier x) => .ok (some (.identifier x)) c.bump.2
  | some (.string _) => .ok none c
  | none => .ok none c

/-- Reads an expression: tokens of one as long as there are any. -/
def expression : CursorReader Expression := fun c =>
  match expressionToken? c with
  | .error e next => .error e next
  | .ok none next => .ok [] next
  | .ok (some t) next =>
    if next.remaining.length < c.remaining.length then
      match expression next with
      | .ok e last => .ok (t :: e) last
      | .error e last => .error e last
    else .ok [t] next
termination_by c => c.remaining.length

/-- Goes on by the first of some keywords that stands at the cursor, and takes it. -/
def choose : List (Keyword × CursorReader α) → CursorReader α → CursorReader α
  | [], otherwise => otherwise
  | (k, reader) :: more, otherwise => do
    if ← skip k then reader else choose more otherwise

/-- Reads one statement, given how to read the body of a loop.  Where none starts the answer is
nothing, and the cursor is moved back to where it was. -/
def statementWith (body : CursorReader (List Statement)) : CursorReader (Option Statement) :=
  choose
    [(.say, do
      expect .colon
      let value ← expression
      expect .period
      return some (.say value))]
    (do
      let start ← position
      match ← identifier? with
      | none => return none
      | some x =>
        choose (statementForms expect expression body x) (do
          moveTo start
          return none))

/-- Reads statements until none starts. -/
def statements : CursorReader (List Statement) := fun c =>
  match statementWith (fun inner =>
      if inner.remaining.length < c.remaining.length then statements inner else .ok [] inner) c with
  | .error e next => .error e next
  | .ok none next => .ok [] next
  | .ok (some s) next =>
    if next.remaining.length < c.remaining.length then
      match statements next with
      | .ok more last => .ok (s :: more) last
      | .error e last => .error e last
    else .ok [s] next
termination_by c => c.remaining.length

/-- Reads one statement, if one starts here. -/
def statement : CursorReader (Option Statement) :=
  statementWith statements

end CursorReader

end Laoke
