import Laoke.Program

/-!
# Reading statements

A statement is recognised by its first one or two tokens; from there on every
token is mandatory, and the first one that does not fit is the error.  Where no
statement starts, nothing is read: that is how a loop body and a program end.

Readers work on the tokens that are left.  A reader that fails also says what is
left at that point, so the position of an error is the place where reading
stopped.
-/

namespace Laoke

/-- What was wanted where reading stopped. -/
inductive Expectation where
  | keyword (word : Keyword)
  | kind (kind : TokenKind)
  | statement
  deriving DecidableEq, Repr

/-- An expectation as messages put it. -/
def Expectation.label : Expectation → String
  | keyword k => "keyword `" ++ k.spelling ++ "`"
  | kind k => k.label
  | statement => "a statement"

/-- Why a list of tokens is no program. -/
inductive ParseError where
  /-- Another token stands where one was wanted; positions count from zero. -/
  | unexpectedToken (wanted : Expectation) (found : Token) (position : Nat)
  /-- The tokens end in the middle of a statement. -/
  | unexpectedEnd (wanted : Expectation)
  deriving DecidableEq, Repr

/-- The text of a parse error. -/
def ParseError.message : ParseError → String
  | unexpectedToken wanted found position =>
    "expected " ++ wanted.label ++ ", found " ++ found.display ++
      " (token #" ++ position.repr ++ ")"
  | unexpectedEnd wanted => "statement ended too early, expected " ++ wanted.label

/-- Reads from the front of a list of tokens and leaves the rest. -/
abbrev Reader := EStateM Expectation (List Token)

namespace Reader

/-- Reads the given keyword. -/
def expect (k : Keyword) : Reader Unit := fun
  | .keyword word :: rest =>
    if word = k then .ok () rest else .error (.keyword k) (.keyword word :: rest)
  | tokens => .error (.keyword k) tokens

/-- Puts a token in front of an expression that was read. -/
def consExpression (t : Token) :
    EStateM.Result Expectation (List Token) Expression →
      EStateM.Result Expectation (List Token) Expression
  | .ok e rest => .ok (t :: e) rest
  | .error wanted rest => .error wanted rest

/-- Reads an expression: as many integers, identifiers, operators and quoted strings as follow
one another. -/
def expression : Reader Expression
  | [] => .ok [] []
  | .integer n :: rest => consExpression (.integer n) (expression rest)
  | .identifier x :: rest => consExpression (.identifier x) (expression rest)
  | .keyword .openQuote :: .string s :: .keyword .closeQuote :: rest =>
    consExpression (.string s) (expression rest)
  | .keyword .openQuote :: .string _ :: rest => .error (.keyword .closeQuote) rest
  | .keyword .openQuote :: rest => .error (.kind .string) rest
  | .keyword k :: rest =>
    if k.isOperator then consExpression (.keyword k) (expression rest)
    else .ok [] (.keyword k :: rest)
  | .string s :: rest => .ok [] (.string s :: rest)

/-- Reads one statement, given how to read the body of a loop.  Where none starts the answer is
nothing and all tokens are left. -/
def statementWith (body : Reader (List Statement)) : Reader (Option Statement)
  | .keyword .say :: rest => (do
    expect .colon
    let value ← expression
    expect .period
    return some (.say value) : Reader _) rest
  | .identifier x :: .keyword .isVariable :: rest => (do
    expect .period
    return some (.declare x) : Reader _) rest
  | .identifier x :: .keyword .become :: rest => (do
    let value ← expression
    expect .period
    return some (.assign x value) : Reader _) rest
  | .identifier x :: .keyword .increment :: rest => (do
    expect .period
    return some (.increase x .one) : Reader _) rest
  | .identifier x :: .keyword .incrementBy :: rest => (do
    let amount ← expression
    expect .step
    expect .period
    return some (.increase x amount) : Reader _) rest
  | .identifier x :: .keyword .decrement :: rest => (do
    expect .period
    return some (.decrease x .one) : Reader _) rest
  | .identifier x :: .keyword .decrementBy :: rest => (do
    let amount ← expression
    expect .step
    expect .period
    return some (.decrease x amount) : Reader _) rest
  | .identifier x :: .keyword .startingAt :: rest => (do
    let first ← expression
    expect .upTo
    let last ← expression
    expect .loop
    let statements ← body
    expect .endLoop
    return some (.loop x first last statements) : Reader _) rest
  | tokens => .ok none tokens

/-- Reads statements until none starts. -/
def statements (tokens : List Token) :
    EStateM.Result Expectation (List Token) (List Statement) :=
  match statementWith (fun inner =>
      if inner.length < tokens.length then statements inner else .ok [] inner) tokens with
  | .error wanted rest => .error wanted rest
  | .ok none rest => .ok [] rest
  | .ok (some s) rest =>
    if rest.length < tokens.length then
      match statements rest with
      | .ok more rest => .ok (s :: more) rest
      | .error wanted rest => .error wanted rest
    else .ok [s] rest
termination_by tokens.length

/-- Reads one statement, if one starts here. -/
def statement : Reader (Option Statement) :=
  statementWith statements

end Reader

/-- The error of a reader that stopped before `rest`, as a position in `total` tokens. -/
def ParseError.at (total : Nat) (wanted : Expectation) : List Token → ParseError
  | [] => .unexpectedEnd wanted
  | found :: rest => .unexpectedToken wanted found (total - (rest.length + 1))

/-- The program that a list of tokens spells.  Tokens after its last statement are an error. -/
def Program.ofTokens (tokens : List Token) : Except ParseError Program :=
  match Reader.statements tokens with
  | .error wanted rest => .error (.at tokens.length wanted rest)
  | .ok program [] => .ok program
  | .ok _ rest => .error (.at tokens.length .statement rest)

end Laoke
