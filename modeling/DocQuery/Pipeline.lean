import DocQuery.Pipeline.Stage

/-!
The pipeline of a query: its operations as stages in the order in which they are written. A stage
fails only when no row of an input that is not empty could be evaluated.
-/

namespace DocQuery

structure Diagnostics where
  operation : String
  incoming : Nat
  outgoing : Nat
  errors : List RowError

/-- Rows on their way, with what their identifiers mean and what the stages before did. -/
structure Pipeline where
  rows : List Row
  meaning : IdMeaning := .path
  /-- In the order of the stages. -/
  diagnostics : List Diagnostics := []

namespace Pipeline

/-- How many errors are quoted when a stage fails. -/
def quotedErrors : Nat := 3

/-- Takes the outcome of a stage, unless every row failed. -/
def accept (p : Pipeline) (operation : String) (meaning : IdMeaning) (s : Stage Row) :
    Except QueryError Pipeline :=
  if p.rows.length != 0 && s.errors.length == p.rows.length then
    .error (.everyRowFailed operation (s.errors.take quotedErrors))
  else
    .ok {
      rows := s.rows
      meaning
      diagnostics := p.diagnostics ++ [⟨operation, p.rows.length, s.rows.length, s.errors⟩] }

/-- Undoes or makes a flattening: flattening by the name of the present grouping restores its
members. -/
def flatten (p : Pipeline) (c : Context) (target : NamedExpr) : IdMeaning × Stage Row :=
  match p.meaning with
  | .group name on =>
    if name = target.name then (on, ⟨Stage.ungroup name p.rows, []⟩)
    else (p.meaning, Stage.flatten c target p.rows)
  | .path => (p.meaning, Stage.flatten c target p.rows)

def step (c : Context) (p : Pipeline) (operation : Operation) : Except QueryError Pipeline :=
  let accept := p.accept operation.kind
  match operation with
  | .filter clause => accept p.meaning (Stage.filter c clause p.rows)
  | .having clause => accept p.meaning (Stage.filter c clause p.rows)
  | .sort fields => accept p.meaning (Stage.sort c fields p.rows)
  | .limit amount => do
    let count ← Stage.limitCount c amount
    accept p.meaning ⟨p.rows.take count, []⟩
  | .group key => accept (.group key.name p.meaning) (Stage.group c key p.rows)
  | .flatten target =>
    let (meaning, stage) := p.flatten c target
    accept meaning stage

def runFrom (c : Context) : Pipeline → List Operation → Except QueryError Pipeline
  | p, [] => .ok p
  | p, operation :: rest => do runFrom c (← p.step c operation) rest

def run (c : Context) (rows : List Row) (operations : List Operation) :
    Except QueryError Pipeline :=
  runFrom c { rows } operations

/-- Replaces the fields of every row by the values of expressions. -/
def extract (c : Context) (columns : List (String × Expr)) (p : Pipeline) :
    Except QueryError Pipeline :=
  let stage := Stage.evaluate (fun row => Expr.evalEntries c (some row.fields) columns) p.rows
  p.accept "extract" p.meaning
    (stage.andThen fun kept => kept.map fun (fields, row) => { row with fields })

/-- Passes rows through operations and extracts columns. -/
def runExtract (c : Context) (rows : List Row) (operations : List Operation)
    (columns : List (String × Expr)) : Except QueryError Pipeline := do
  (← run c rows operations).extract c columns

end Pipeline

end DocQuery
