import Laoke.Script.Block

/-!
# Running a script

A machine holds the variables of a script and counts the statements it runs.  A
script that fails leaves the machine as it was at that point, with whatever it
had assigned so far.

The result of a script is the text of its accumulator, a variable that starts
out as the empty text.
-/

namespace Laoke.Script

/-- The values of variables. -/
abbrev Store := List (String × Value)

namespace Store

/-- The value of a variable. -/
def get? (store : Store) (x : String) : Option Value :=
  store.lookup x

/-- The store in which a variable has a new value. -/
def set : Store → String → Value → Store
  | [], x, v => [(x, v)]
  | (y, w) :: rest, x, v => if y = x then (y, v) :: rest else (y, w) :: set rest x v

end Store

/-- The range of a loop that was entered. -/
structure EnteredRange where
  counter : String
  start : Int
  stop : Int
  deriving DecidableEq, Repr

/-- The state of a run. -/
structure Machine where
  store : Store := []
  /-- The number of statements begun. -/
  executed : Nat := 0
  /-- The ranges of the loops entered, the latest first. -/
  entered : List EnteredRange := []
  /-- Whether the run came to its end. -/
  complete : Bool := false
  deriving DecidableEq, Repr

/-- The value of a variable, which has to have one. -/
def lookup (store : Store) (x : String) : Except Error Value :=
  match store.get? x with
  | some v => .ok v
  | none => .error (.undefinedName x)

/-- An arithmetic result as the result of a step. -/
def ofArithmetic : Except ArithmeticFault Value → Except Error Value
  | .ok v => .ok v
  | .error fault => .error (.ofArithmetic fault)

mutual

/-- The value of an expression. -/
def eval (store : Store) : Expr → Except Error Value
  | .int n => .ok (.int n)
  | .str s => .ok (.str s)
  | .none => .ok .none
  | .name x => lookup store x
  | .unary op operand => do
    let v ← eval store operand
    ofArithmetic (v.unary op)
  | .binary op left right => do
    let v ← eval store left
    let w ← eval store right
    ofArithmetic (v.binary op w)
  | .call function arguments =>
    if function = "str" then evalText store arguments
    else .error (.ofType (.notCallable function))

/-- The text of a single argument. -/
def evalText (store : Store) : List Expr → Except Error Value
  | [] => .error (.ofType (.argumentCount 0))
  | [argument] => do
    let v ← eval store argument
    return .str v.display
  | _ :: _ :: more => .error (.ofType (.argumentCount (more.length + 2)))

end

/-- The value of a bound of a range. -/
def evalBound (store : Store) (bound : Expr) : Except Error Int := do
  match ← eval store bound with
  | .int n => return n
  | v => .error (.ofType (.rangeBound v.typeName))

/-- The value that an assignment gives to its variable. -/
def assigned (store : Store) (name : String) (op : AssignOp) (value : Expr) :
    Except Error Value := do
  let v ← eval store value
  match op with
  | .set => return v
  | .add => ofArithmetic (Value.binary .add (← lookup store name) v)
  | .sub => ofArithmetic (Value.binary .sub (← lookup store name) v)

/-- Steps of a machine, which may fail. -/
abbrev Run := EStateM Error Machine

namespace Run

/-- Computes from the variables. -/
def query {α : Type} (f : Store → Except Error α) : Run α := fun m =>
  match f m.store with
  | .ok a => .ok a m
  | .error e => .error e m

/-- Gives a variable a value. -/
def assign (x : String) (v : Value) : Run Unit := fun m =>
  .ok () { m with store := m.store.set x v }

/-- Counts a statement. -/
def count : Run Unit := fun m =>
  .ok () { m with executed := m.executed + 1 }

/-- Notes the range of a loop. -/
def enter (range : EnteredRange) : Run Unit := fun m =>
  .ok () { m with entered := range :: m.entered }

/-- Runs the body for `n` numbers from `i` on. -/
def iterate (body : Int → Run Unit) (i : Int) : Nat → Run Unit
  | 0 => pure ()
  | n + 1 => do
    body i
    iterate body (i + 1) n

end Run

mutual

/-- Runs a statement. -/
def exec : Statement → Run Unit
  | .pass => Run.count
  | .assign name op value => do
    Run.count
    let v ← Run.query fun store => assigned store name op value
    Run.assign name v
  | .forRange counter start stop body => do
    Run.count
    let first ← Run.query fun store => evalBound store start
    let last ← Run.query fun store => evalBound store stop
    Run.enter ⟨counter, first, last⟩
    Run.iterate (fun i => do
      Run.assign counter (.int i)
      execAll body) first (last - first).toNat

/-- Runs statements one after the other. -/
def execAll : List Statement → Run Unit
  | [] => pure ()
  | s :: more => do
    exec s
    execAll more

end

namespace Machine

/-- The text of the accumulator at the end of a run. -/
def output (m : Machine) (accumulator : String) : Except Error String :=
  match m.store.get? accumulator with
  | some (.str s) => .ok s
  | _ => .error (.missingAccumulator accumulator)

/-- Runs the statements of a script on a fresh machine. -/
def run (accumulator : String) (script : List Statement) : Except Error String × Machine :=
  match execAll script { store := Store.set [] accumulator (.str "") } with
  | .error e m => (.error e, m)
  | .ok () m => (output m accumulator, { m with complete := true })

end Machine

/-- Runs a script on a fresh machine.  A text that is no script leaves the machine fresh. -/
def execute (accumulator : String) (code : String) : Except Error String × Machine :=
  match parse code with
  | .error e => (.error e, {})
  | .ok script => Machine.run accumulator script

end Laoke.Script
