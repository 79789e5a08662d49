import DocQuery.Engine
import DocQuery.Proofs.Keyed
import DocQuery.Proofs.Outcome
import DocQuery.Proofs.Pipeline.Run
import DocQuery.Proofs.Pipeline.Stage

/-!
Queries of different shapes that show the same expression. Each shape has its own way from the rows of the
pipeline to its answer; all of them show the same identifiers beside the same values, and they fail together.
-/

namespace DocQuery

namespace Pipeline

variable {c : Context} {expr : Expr}

/-- The identifiers of the rows that an expression has a value for, each beside that value. -/
def shown (c : Context) (expr : Expr) (rows : List Row) : List (Value × Value) :=
  (Stage.evaluate (Stage.valueOf c expr) rows).rows.map fun (v, row) => (row.id, v)

/-- What is recorded when an expression is shown for rows. -/
def showing (c : Context) (expr : Expr) (rows : List Row) : Diagnostics :=
  ⟨"extract", rows.length, (shown c expr rows).length, (Stage.evaluate (Stage.valueOf c expr) rows).errors⟩

/-- The rows that an expression has a value for, with that value under a name as their only field. -/
def column (c : Context) (expr : Expr) (name : String) (rows : List Row) : List Row :=
  (Stage.evaluate (Stage.valueOf c expr) rows).rows.map fun (v, row) => { row with fields := [(name, v)] }

theorem evalEntries_single (c : Context) (row : Option Object) (name : String) (expr : Expr) :
    Expr.evalEntries c row [(name, expr)] = (fun v => [(name, v)]) <$> expr.eval c row := by
  rw [Expr.evalEntries, Expr.evalEntries]
  cases expr.eval c row <;> rfl

/-- Extracting one column leaves that column. -/
theorem extract_single (c : Context) (expr : Expr) (name : String) (p : Pipeline) :
    p.extract c [(name, expr)] = p.accept "extract" p.meaning
      ⟨column c expr name p.rows, (Stage.evaluate (Stage.valueOf c expr) p.rows).errors⟩ := by
  have hEntries (row : Row) : Expr.evalEntries c (some row.fields) [(name, expr)] =
      (fun v => [(name, v)]) <$> Stage.valueOf c expr row := evalEntries_single ..
  simp only [extract, hEntries, Stage.evaluate_map, Stage.andThen, List.map_map]
  rfl

/-- Whether an expression can be shown does not depend on the name that it is extracted under. -/
theorem runExtract_single (c : Context) (expr : Expr) (rows : List Row) (operations : List Operation) :
    (∃ error, ∀ name, runExtract c rows operations [(name, expr)] = .error error) ∨
    ∃ p, run c rows operations = .ok p ∧ ∀ name, runExtract c rows operations [(name, expr)] =
      .ok ⟨column c expr name p.rows, p.meaning, p.diagnostics ++ [showing c expr p.rows]⟩ := by
  cases hRun : run c rows operations with
  | error error => exact .inl ⟨error, fun name => by rw [runExtract, hRun]; rfl⟩
  | ok p =>
      have hExtract (name : String) : runExtract c rows operations [(name, expr)] =
          p.extract c [(name, expr)] := by
        rw [runExtract, hRun]
        rfl
      have hCount (name : String) : (column c expr name p.rows).length = (shown c expr p.rows).length := by
        rw [column, shown, List.length_map, List.length_map]
      simp only [hExtract, extract_single, accept, hCount]
      -- The test for acceptance sees the errors alone, which are the same under every name.
      split
      · exact .inl ⟨_, fun _ => rfl⟩
      · exact .inr ⟨p, rfl, fun _ => rfl⟩

end Pipeline

namespace Engine

/-- The shapes that show one expression. The column of a table and the field of a calendar have a name. -/
inductive View where
  | table (column : String) (showId : Bool)
  | list (showId : Bool)
  | calendar (field : String)

namespace View

/-- The header of the query that asks for a view of an expression. -/
def header (expr : Expr) : View → Header
  | table column showId => .table [⟨column, expr⟩] showId
  | list showId => .list (some expr) showId
  | calendar field => .calendar ⟨field, expr⟩

/-- The entry of a calendar for an identifier with a date beside it. -/
def dated? : Value × Value → Option CalendarEntry
  | (id, .date d) => some ⟨d, id, .date d⟩
  | _ => none

/-- What a view shows of identifiers and the values beside them. -/
def body (idHeader : String) (shown : List (Value × Value)) : View → AnswerBody
  | table column true => .table [idHeader, column] (shown.map fun (id, v) => [id, v])
  | table column false => .table [column] (shown.map fun (_, v) => [v])
  | list true => .list (shown.map fun (id, v) => .listPair id v)
  | list false => .list (shown.map fun (_, v) => v)
  | calendar _ => .calendar (shown.filterMap dated?)

/-- The name under which the expression of a view is extracted. -/
def columnName : View → String
  | table column _ => column
  | list _ | calendar _ => targetName

end View

/-- An entry of a calendar is a row whose column is a date. -/
theorem dated?_of_row (row : Row) :
    View.dated? (row.id, Object.get row.fields targetName) = calendarEntry? row := by
  unfold calendarEntry?
  split
  · next hDate => rw [hDate, View.dated?]
  · next hOther => rw [View.dated?.eq_2 _ fun id d hPair => hOther d (Prod.mk.inj hPair).2]

/-- Every view is made of the rows behind the extraction of one column. -/
theorem run_view_eq (e : Engine) (corpus : Corpus) (origin : Option String) (source : Source)
    (operations : List Operation) (expr : Expr) (view : View) :
    e.run ⟨view.header expr, source, operations⟩ corpus origin = do
      let rows ← corpus.indexed.rows source
      let p ← Pipeline.runExtract (e.context corpus.indexed origin) rows operations
        [(view.columnName, expr)]
      return answer p (view.body (e.idHeader p.meaning) (p.rows.map fun row =>
        (row.id, Object.get row.fields view.columnName))) := by
  cases view with
  | table column showId =>
      cases showId <;> simp only [View.body, List.map_map] <;> rfl
  | list showId =>
      cases showId <;> simp only [View.body, List.map_map] <;> rfl
  | calendar field =>
      simp only [View.body, List.filterMap_map, Function.comp_def, View.columnName, dated?_of_row]
      rfl

/-- What a column holds is what the expression is for each row. -/
theorem get_column (c : Context) (expr : Expr) (name : String) (rows : List Row) :
    ((Pipeline.column c expr name rows).map fun row => (row.id, Object.get row.fields name)) =
      Pipeline.shown c expr rows := by
  rw [Pipeline.column, Pipeline.shown, List.map_map]
  refine List.map_congr_left fun (v, row) _ => ?_
  have hGet : Object.get [(name, v)] name = v := by
    rw [Object.get, Keyed.get?_cons, if_pos rfl, Option.getD_some]
  exact congrArg (row.id, ·) hGet

/-- Queries that show an expression of the same rows as columns, items or entries fail with the same error
or show the same identifiers and values, with the same records of the stages. What they show are the
values of the expression for the rows behind the operations, in their order. -/
theorem run_view (e : Engine) (corpus : Corpus) (origin : Option String) (source : Source)
    (operations : List Operation) (expr : Expr) :
    (∃ error, ∀ view : View,
      e.run ⟨view.header expr, source, operations⟩ corpus origin = .error error) ∨
    ∃ rows p, corpus.indexed.rows source = .ok rows ∧
      Pipeline.run (e.context corpus.indexed origin) rows operations = .ok p ∧
      ∀ view : View, e.run ⟨view.header expr, source, operations⟩ corpus origin =
        .ok ⟨view.body (e.idHeader p.meaning)
            (Pipeline.shown (e.context corpus.indexed origin) expr p.rows), p.meaning,
          p.diagnostics ++ [Pipeline.showing (e.context corpus.indexed origin) expr p.rows]⟩ := by
  simp only [run_view_eq]
  cases hRows : corpus.indexed.rows source with
  | error error => exact .inl ⟨error, fun _ => rfl⟩
  | ok rows =>
      rcases Pipeline.runExtract_single (e.context corpus.indexed origin) expr rows operations with
        ⟨error, hError⟩ | ⟨p, hRun, hExtract⟩
      · exact .inl ⟨error, fun view => bind_eq_error_iff.mpr
          (.inr ⟨rows, rfl, bind_eq_error_iff.mpr (.inl (hError _))⟩)⟩
      · refine .inr ⟨rows, p, rfl, hRun, fun view => ?_⟩
        refine bind_eq_ok_iff.mpr ⟨rows, rfl, bind_eq_ok_iff.mpr ⟨_, hExtract view.columnName, ?_⟩⟩
        simp only [get_column]
        rfl

end Engine
end DocQuery
