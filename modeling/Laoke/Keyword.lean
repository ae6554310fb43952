/-!
# Keywords

The fixed words and marks of the language.  Spellings are matched at the start
of a text in the order of `Keyword.all`, where a spelling that begins with
another one stands before it: the first match is therefore the longest.
-/

namespace Laoke

/-- The words and marks with a fixed spelling. -/
inductive Keyword where
  | become
  | start
  | closeQuote
  | colon
  | decrement
  | decrementBy
  | divideBy
  | finish
  | endLoop
  | startingAt
  | increment
  | incrementBy
  | isVariable
  | loop
  | minus
  | openQuote
  | period
  | plus
  | say
  | step
  | times
  | upTo
  deriving DecidableEq, Repr

namespace Keyword

/-- All keywords, in the order in which they are matched. -/
def all : List Keyword :=
  [become, start, closeQuote, colon, decrement, decrementBy, divideBy, finish, endLoop, startingAt,
   increment, incrementBy, isVariable, loop, minus, openQuote, period, plus, say, step, times, upTo]

/-- The characters that spell a keyword. -/
def letters : Keyword → List Char
  | become => ['装']
  | start => ['开', '整', '了', '：']
  | closeQuote => ['”']
  | colon => ['：']
  | decrement => ['退', '退']
  | decrementBy => ['退']
  | divideBy => ['除', '以']
  | finish => ['整', '完', '了', '。']
  | endLoop => ['磨', '叽', '完', '了', '。']
  | startingAt => ['从']
  | increment => ['走', '走']
  | incrementBy => ['走']
  | isVariable => ['是', '活', '雷', '锋']
  | loop => ['磨', '叽', '：']
  | minus => ['减']
  | openQuote => ['“']
  | period => ['。']
  | plus => ['加']
  | say => ['唠', '唠']
  | step => ['步']
  | times => ['乘']
  | upTo => ['到']

/-- The text that spells a keyword. -/
def spelling (k : Keyword) : String :=
  String.ofList k.letters

/-- The name of a keyword in listings of tokens and programs. -/
def name : Keyword → String
  | become => "Become"
  | start => "Begin"
  | closeQuote => "CloseQuote"
  | colon => "Colon"
  | decrement => "Dec"
  | decrementBy => "DecBy"
  | divideBy => "DivideBy"
  | finish => "End"
  | endLoop => "EndLoop"
  | startingAt => "From"
  | increment => "Inc"
  | incrementBy => "IncBy"
  | isVariable => "IsVar"
  | loop => "Loop"
  | minus => "Minus"
  | openQuote => "OpenQuote"
  | period => "Period"
  | plus => "Plus"
  | say => "Say"
  | step => "Step"
  | times => "Times"
  | upTo => "To"

/-- The symbol of an arithmetic operator. -/
def symbol? : Keyword → Option Char
  | plus => some '+'
  | minus => some '-'
  | times => some '*'
  | divideBy => some '/'
  | _ => none

/-- Whether a keyword is an arithmetic operator. -/
def isOperator (k : Keyword) : Bool :=
  k.symbol?.isSome

/-- The keyword with the given listed name. -/
def ofName? (s : String) : Option Keyword :=
  all.find? fun k => k.name = s

/-- The keyword that a text spells exactly. -/
def ofSpelling? (cs : List Char) : Option Keyword :=
  all.find? fun k => k.letters = cs

/-- The keyword at the start of a text. -/
def atStart? (cs : List Char) : Option Keyword :=
  all.find? fun k => k.letters.isPrefixOf cs

end Keyword

end Laoke
