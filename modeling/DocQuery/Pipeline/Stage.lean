import DocQuery.Pipeline.Row
import DocQuery.Sequence

/-!
The stages that rows pass through. A stage evaluates its expressions once for every row; a row for
which that fails is left out and its error is kept.
-/

namespace DocQuery

/-- The rows behind a stage, and the errors of the rows that it left out. -/
structure Stage (α : Type) where
  rows : List α
  errors : List RowError

namespace Stage

variable {α : Type}

/-- Evaluates something for every row. -/
def evaluate (f : Row → Outcome α) (rows : List Row) : Stage (α × Row) where
  rows := rows.filterMap fun row =>
    match f row with
    | .ok v => some (v, row)
    | .error _ => none
  errors := rows.zipIdx.filterMap fun (row, index) =>
    match f row with
    | .ok _ => none
    | .error error => some ⟨index, error⟩

/-- Goes on with the rows that are left. -/
def andThen {β : Type} (s : Stage α) (f : List α → List β) : Stage β := ⟨f s.rows, s.errors⟩

def valueOf (c : Context) (e : Expr) (row : Row) : Outcome Value := e.eval c (some row.fields)

/-- Keeps the rows for which a clause counts as true. -/
def filter (c : Context) (clause : Expr) (rows : List Row) : Stage Row :=
  (evaluate (valueOf c clause) rows).andThen fun kept =>
    (kept.filter fun (v, _) => v.truthy).map Prod.snd

/-- Whether an operator holds between two values. -/
def holds (c : Context) (op : Op) (a b : Value) : Bool :=
  match c.apply op a b with
  | .ok v => v.truthy
  | .error _ => false

/-- The order of two values by the operators `<` and `>`. -/
def order (c : Context) (a b : Value) : Ordering :=
  if holds c .less a b then .lt else if holds c .greater a b then .gt else .eq

def directed : SortDirection → Ordering → Ordering
  | .ascending, o => o
  | .descending, o => o.swap

/-- The order of the values of sort fields, of which the earlier ones decide first. -/
def orderKeys (c : Context) : List SortField → List Value → List Value → Ordering
  | field :: fields, a :: as, b :: bs =>
    (directed field.direction (order c a b)).then (orderKeys c fields as bs)
  | _, _, _ => .eq

def keysOf (c : Context) (fields : List SortField) (row : Row) : Outcome (List Value) :=
  Expr.evalItems c (some row.fields) (fields.map SortField.expr)

/-- Sorts rows by fields; rows that these do not tell apart stay as they were. -/
def sort (c : Context) (fields : List SortField) (rows : List Row) : Stage Row :=
  (evaluate (keysOf c fields) rows).andThen fun kept =>
    (Sequence.sortBy (fun a b => orderKeys c fields a.1 b.1) kept).map Prod.snd

/-- The number of rows that a limit lets through. It is evaluated outside all rows. -/
def limitCount (c : Context) (amount : Expr) : Except QueryError Nat :=
  match amount.eval c none with
  | .error e => .error (.limitFailed e)
  | .ok (.number n) =>
    if n.isFinite && !n.isNegative then .ok n.toCount else .error (.invalidLimit (.number n))
  | .ok v => .error (.invalidLimit v)

/-- The row of a group. The key stands under the name of the grouping and under `key`, the fields of
the members under `rows`. -/
def groupRow (name : String) (group : Group Value Row) : Row where
  id := group.key
  fields := Keyed.ofList [(name, group.key), ("key", group.key),
    ("rows", .array (group.members.map fun member => .object member.fields))]
  members := group.members

/-- Makes one row of all rows with the same key, in the order of the keys. -/
def group (c : Context) (key : NamedExpr) (rows : List Row) : Stage Row :=
  (evaluate (valueOf c key.expr) rows).andThen fun kept =>
    (Sequence.groupBy c.compare kept).map (groupRow key.name)

/-- The rows for a value: one for each element of an array, and one for anything else. -/
def spreadRow (name : String) (v : Value) (row : Row) : List Row :=
  match v with
  | .array items => items.map (row.set name)
  | v => [row.set name v]

/-- Makes one row for each element of an array. -/
def flatten (c : Context) (target : NamedExpr) (rows : List Row) : Stage Row :=
  (evaluate (valueOf c target.expr) rows).andThen fun kept =>
    kept.flatMap fun (v, row) => spreadRow target.name v row

/-- The members of all groups, with the key of the group under the name of the grouping. -/
def ungroup (name : String) (rows : List Row) : List Row :=
  rows.flatMap fun row => row.members.map fun member => member.set name row.id

end Stage

end DocQuery
