import DocQuery.Builtin
import DocQuery.Eval.Index
import DocQuery.Eval.Operators.Standard

/-!
Evaluation of expressions. A name is looked up among the fields of the row, then it may be `row`
itself, then it is looked up among the global variables; an unknown name is null.
-/

namespace DocQuery

/-- All that an expression is evaluated in, but for the row. -/
structure Context extends CallScope where
  functions : FunctionTable
  /-- The global variables, among which is always `this`. -/
  globals : Object

namespace Context

/-- A context with the standard operators and built-in functions, in which `this` is empty. -/
def standard (links : Links) (settings : Settings) (now : Date) : Context :=
  { links, settings, now, operators := .standard, functions := Builtin.table,
    globals := [("this", .object [])] }

def set (c : Context) (name : String) (v : Value) : Context :=
  { c with globals := Keyed.set c.globals name v }

def withThis (c : Context) (fields : Object) : Context := c.set "this" (.object fields)

def get? (c : Context) (name : String) : Option Value := Keyed.get? c.globals name

def call (c : Context) (name : String) (args : List Value) : Outcome Value :=
  c.functions.call c.toCallScope name args

def index (c : Context) (object index : Value) : Outcome Value := object.index c.links index

def lookup (c : Context) (row : Option Object) (name : String) : Value :=
  let ofRow : Option Value := do
    let fields ← row
    match Keyed.get? fields name with
    | some v => some v
    | none => if name = "row" then some (.object fields) else none
  ofRow.getD ((c.get? name).getD .null)

end Context

namespace Expr

mutual

/-- The value of an expression. Operands are evaluated from left to right, and the first failure
counts. -/
def eval (c : Context) (row : Option Object) : Expr → Outcome Value
  | literal v => .ok v
  | .name n => .ok (c.lookup row n)
  | .not operand => do return .boolean (!(← eval c row operand).truthy)
  | binary op left right => do
    let l ← eval c row left
    let r ← eval c row right
    c.apply op l r
  | list items => Value.array <$> evalItems c row items
  | object entries => do return .object (Keyed.ofList (← evalEntries c row entries))
  | .index container key => do
    let v ← eval c row container
    let k ← eval c row key
    c.index v k
  | call (.name n) args => do
    let args ← evalItems c row args
    c.call n args
  | call callee _ => .error (.notCallable callee)

def evalItems (c : Context) (row : Option Object) : List Expr → Outcome (List Value)
  | [] => .ok []
  | item :: rest => do
    let v ← eval c row item
    return v :: (← evalItems c row rest)

def evalEntries (c : Context) (row : Option Object) :
    List (String × Expr) → Outcome (List (String × Value))
  | [] => .ok []
  | (key, item) :: rest => do
    let v ← eval c row item
    return (key, v) :: (← evalEntries c row rest)

end

end Expr

end DocQuery
