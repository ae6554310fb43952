import Laoke.Script.Error
import Laoke.Script.Name
import Laoke.Script.Tree

/-!
# Reading expressions

An operator binds its operands with a strength: signs more strongly than products,
products more strongly than sums.  The right operand of an operator is read up to
the next one that does not bind more strongly, so operators of one strength group
to the left.  Strings that stand next to each other are one string.

Operands, operators and atoms are read by functions of the reader for what stands
inside them.  `exprAbove` closes the circle: what stands inside is shorter than the
whole.
-/

namespace Laoke.Script

/-! ### Binding strengths -/

namespace Strength

/-- Weaker than any operator. -/
def lowest : Nat := 0

/-- Of the operators between terms. -/
def term : Nat := 6

/-- Of the operators between factors. -/
def factor : Nat := 7

/-- Of signs. -/
def sign : Nat := 8

end Strength

/-- The operator between operands that a token is, and how strongly it binds them. -/
def operator? : Token → Option (BinaryOp × Nat)
  | .plus => some (.add, Strength.term)
  | .minus => some (.sub, Strength.term)
  | .star => some (.mul, Strength.factor)
  | .slash => some (.div, Strength.factor)
  | _ => none

/-! ### Readers -/

/-- Reads from the front of the tokens of a line and leaves the rest. -/
abbrev LineReader := EStateM Wanted (List Token)

namespace LineReader

/-- Reads the given token, which messages show as `text`. -/
def expectToken (t : Token) (text : String) : LineReader Unit := fun tokens =>
  match tokens with
  | u :: rest => if u = t then .ok () rest else .error (.mark text) tokens
  | [] => .error (.mark text) tokens

/-- Reads the given word. -/
def expectWord (word : String) : LineReader Unit := fun tokens =>
  match tokens with
  | u :: rest => if u = .name word then .ok () rest else .error (.word word) tokens
  | [] => .error (.word word) tokens

/-- Reads a name that is no reserved word. -/
def identifier : LineReader String := fun tokens =>
  match tokens with
  | .name x :: rest => if isReserved x then .error .name tokens else .ok x rest
  | _ => .error .name tokens

/-- Succeeds at the end of the line. -/
def lineEnd : LineReader Unit := fun tokens =>
  match tokens with
  | [] => .ok () []
  | _ => .error .lineEnd tokens

/-- The joined text of the strings at the front, and what follows them. -/
def joinedStrings : List Token → String × List Token
  | .str s :: rest =>
    let (more, after) := joinedStrings rest
    (s ++ more, after)
  | tokens => ("", tokens)

/-- Reads arguments of a call up to the closing parenthesis, at least one. -/
def argumentsFrom (expr : LineReader Expr) (tokens : List Token) :
    EStateM.Result Wanted (List Token) (List Expr) :=
  match expr tokens with
  | .error wanted rest => .error wanted rest
  | .ok e (.rightParen :: rest) => .ok [e] rest
  | .ok e (.comma :: rest) =>
    if rest.length < tokens.length then
      match argumentsFrom expr rest with
      | .ok more after => .ok (e :: more) after
      | .error wanted after => .error wanted after
    else .error .expression rest
  | .ok _ rest => .error .commaOrParen rest
termination_by tokens.length

/-- Reads the arguments of a call after its opening parenthesis. -/
def arguments (expr : LineReader Expr) : LineReader (List Expr) := fun tokens =>
  match tokens with
  | .rightParen :: rest => .ok [] rest
  | _ => argumentsFrom expr tokens

/-- Reads an atom: a literal, a name, a call, or an expression in parentheses. -/
def atom (expr : LineReader Expr) : LineReader Expr := fun tokens =>
  match tokens with
  | .int n :: rest => .ok (.int n) rest
  | .str s :: rest =>
    let (more, after) := joinedStrings rest
    .ok (.str (s ++ more)) after
  | .leftParen :: rest => (do
    let e ← expr
    expectToken .rightParen ")"
    return e : LineReader Expr) rest
  | .name x :: rest =>
    if x = "None" then .ok .none rest
    else if isReserved x then .error .expression tokens
    else
      match rest with
      | .leftParen :: inner => (do return .call x (← arguments expr) : LineReader Expr) inner
      | _ => .ok (.name x) rest
  | _ => .error .expression tokens

/-- Reads an operand: an atom, or a sign and what it binds. -/
def operand (expr : Nat → LineReader Expr) : LineReader Expr := fun tokens =>
  match tokens with
  | .minus :: rest => (do return .unary .neg (← expr Strength.sign) : LineReader Expr) rest
  | .plus :: rest => (do return .unary .pos (← expr Strength.sign) : LineReader Expr) rest
  | _ => atom (expr Strength.lowest) tokens

/-- Goes on after `left` with operators that bind more strongly than `least`, and their right
operands. -/
def operations (expr : Nat → LineReader Expr) (least : Nat) (left : Expr) (tokens : List Token) :
    EStateM.Result Wanted (List Token) Expr :=
  match tokens with
  | [] => .ok left []
  | t :: rest =>
    match operator? t with
    | none => .ok left tokens
    | some (op, strength) =>
      if strength ≤ least then .ok left tokens
      else
        match expr strength rest with
        | .error wanted after => .error wanted after
        | .ok right after =>
          if after.length ≤ rest.length then
            operations expr least (.binary op left right) after
          else .ok (.binary op left right) after
termination_by tokens.length

/-- Reads operands and the operators between them that bind more strongly than `least`, given how to
read what stands inside. -/
def exprWith (expr : Nat → LineReader Expr) (least : Nat) : LineReader Expr := fun tokens =>
  match operand expr tokens with
  | .error wanted rest => .error wanted rest
  | .ok left rest => operations expr least left rest

/-- Reads an expression whose operators, outside parentheses, bind more strongly than `least`. -/
def exprAbove (least : Nat) : LineReader Expr := fun tokens =>
  exprWith (fun strength inner =>
    if inner.length < tokens.length then exprAbove strength inner
    else .error .expression inner) least tokens
termination_by tokens => tokens.length

/-- Reads an expression. -/
def expr : LineReader Expr :=
  exprAbove Strength.lowest

end LineReader

end Laoke.Script
