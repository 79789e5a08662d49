import DocQuery.Eval.Context
import DocQuery.Query.Read

/-!
The rows that a query works on, and what can go wrong with a query.
-/

namespace DocQuery

/-- A row: what identifies it, its fields, and the rows that it was grouped from. -/
structure Row where
  id : Value
  fields : Object
  members : List Row
  deriving Inhabited

namespace Row

/-- A row that is no group. -/
def single (id : Value) (fields : Object) : Row := ⟨id, fields, []⟩

def set (row : Row) (name : String) (v : Value) : Row :=
  { row with fields := Keyed.set row.fields name v }

end Row

/-- What the identifiers of rows mean. -/
inductive IdMeaning where
  /-- The document that a row comes from. -/
  | path
  /-- The key of a grouping with a name, of rows whose identifiers had another meaning. -/
  | group (name : String) (on : IdMeaning)
  deriving DecidableEq

def IdMeaning.isGrouped : IdMeaning → Bool
  | path => false
  | group .. => true

/-- A row that could not be evaluated, by its place among the rows of a stage. -/
structure RowError where
  index : Nat
  error : EvalError

namespace RowError

def message (e : RowError) : String := e.error.message

end RowError

inductive QueryError where
  | unreadable (error : ReadError)
  /-- A selection names a document that does not exist. -/
  | unknownDocument (name : String)
  | evaluation (error : EvalError)
  /-- No row passed a stage; the first errors are given. -/
  | everyRowFailed (stage : String) (first : List RowError)
  | limitFailed (error : EvalError)
  /-- The amount of rows is something else than a number that is not negative. -/
  | invalidLimit (amount : Value)
  | wrongType (expected actual : QueryType)

namespace QueryError

def message : QueryError → String
  | unreadable e => e.message
  | unknownDocument name => "Could not find a document named '" ++ name ++ "'"
  | evaluation e => e.message
  | everyRowFailed stage first =>
    "Every row during " ++ stage ++ " operation failed with an error; first " ++
      toString first.length ++ ":\n" ++
      "\n".intercalate (first.map fun e => toString e.index ++ ": " ++ e.message)
  | limitFailed e => "Failed to evaluate LIMIT: " ++ e.message
  | invalidLimit amount =>
    "LIMIT must be a non-negative number, got " ++ amount.renderPlain ++
      " (" ++ amount.typeName ++ ")"
  | wrongType expected actual =>
    "Expected a " ++ expected.name ++ " query, got a " ++ actual.name ++ " query"

end QueryError

end DocQuery
