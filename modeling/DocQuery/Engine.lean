import DocQuery.Answer
import DocQuery.Corpus

/-!
Answering queries and evaluating expressions over a corpus.
-/

namespace DocQuery

/-- What answers queries: tables of operators and functions, an engine of patterns, settings, and the present
moment. -/
structure Engine where
  operators : Operators := .standard
  functions : FunctionTable := Builtin.table
  patterns : PatternEngine := .standard
  settings : Settings := {}
  /-- The present of a whole run, from the reading of the query to its last row. -/
  now : Date

namespace Engine

/-- The context of evaluations over a corpus. If the document that a query stands in is given and
exists, `this` stands for its fields. -/
def context (e : Engine) (corpus : Corpus) (origin : Option String) : Context :=
  let c : Context :=
    { Context.standard corpus.toLinks e.settings e.now with
      operators := e.operators, functions := e.functions, patterns := e.patterns }
  match origin.bind corpus.page? with
  | some page => c.withThis page
  | none => c

def idHeader (e : Engine) : IdMeaning → String
  | .path => e.settings.idColumnName
  | .group name _ => name

/-- The name under which the field of a list or a calendar is extracted. -/
def targetName : String := "target"

def answer (p : Pipeline) (body : AnswerBody) : Answer := ⟨body, p.meaning, p.diagnostics⟩

/-- Answers a table query: one row of values for every row. -/
def table (e : Engine) (q : Query) (corpus : Corpus) (origin : Option String) :
    Except QueryError Answer :=
  match q.header with
  | .table columns showId => do
    let rows ← corpus.rows q.source
    let columns := Keyed.ofList (columns.map fun column => (column.name, column.expr))
    let p ← Pipeline.runExtract (e.context corpus origin) rows q.operations columns
    let names := Keyed.names columns
    let headers := (if showId then [e.idHeader p.meaning] else []) ++ names
    let values := p.rows.map fun row =>
      (if showId then [row.id] else []) ++ names.map row.fields.get
    return answer p (.table headers values)
  | header => .error (.wrongType .table header.type)

def listItem (formatted showId : Bool) (row : Row) : Value :=
  let target := Object.get row.fields targetName
  match formatted, showId with
  | true, true => .listPair row.id target
  | true, false => target
  | false, _ => row.id

/-- Answers a list query: one item for every row. -/
def list (e : Engine) (q : Query) (corpus : Corpus) (origin : Option String) :
    Except QueryError Answer :=
  match q.header with
  | .list format showId => do
    let rows ← corpus.rows q.source
    let columns := format.toList.map fun format => (targetName, format)
    let p ← Pipeline.runExtract (e.context corpus origin) rows q.operations columns
    return answer p (.list (p.rows.map (listItem format.isSome showId)))
  | header => .error (.wrongType .list header.type)

/-- The rows of the tasks of documents. A task has what is known about its file. -/
def taskRows (corpus : Corpus) (pages : List Row) : List Row :=
  pages.flatMap fun page =>
    match page.id with
    | .link l => (corpus.tasks l.path).map fun task =>
        Row.single ((Keyed.get? task "link").getD page.id)
          (Keyed.set task "file" (Object.get page.fields "file"))
    | _ => []

/-- Answers a task query: the tasks of all selected documents. -/
def task (e : Engine) (q : Query) (corpus : Corpus) (origin : Option String) :
    Except QueryError Answer :=
  match q.header with
  | .task => do
    let pages ← corpus.rows q.source
    let p ← Pipeline.run (e.context corpus origin) (taskRows corpus pages) q.operations
    return answer p (.task (.ofRows p.meaning p.rows))
  | header => .error (.wrongType .task header.type)

/-- The entry of a calendar for a row, if its field is a date. -/
def calendarEntry? (row : Row) : Option CalendarEntry :=
  match Object.get row.fields targetName with
  | .date d => some ⟨d, row.id, .date d⟩
  | _ => none

/-- Answers a calendar query: one entry for every row whose field is a date. -/
def calendar (e : Engine) (q : Query) (corpus : Corpus) (origin : Option String) :
    Except QueryError Answer :=
  match q.header with
  | .calendar field => do
    let rows ← corpus.rows q.source
    let p ← Pipeline.runExtract (e.context corpus origin) rows q.operations
      [(targetName, field.expr)]
    return answer p (.calendar (p.rows.filterMap calendarEntry?))
  | header => .error (.wrongType .calendar header.type)

def runAs (e : Engine) (type : QueryType) (q : Query) (corpus : Corpus) (origin : Option String) :
    Except QueryError Answer :=
  match type with
  | .table => e.table q corpus.indexed origin
  | .list => e.list q corpus.indexed origin
  | .task => e.task q corpus.indexed origin
  | .calendar => e.calendar q corpus.indexed origin

def run (e : Engine) (q : Query) (corpus : Corpus) (origin : Option String) :
    Except QueryError Answer :=
  e.runAs q.header.type q corpus origin

def runText (e : Engine) (text : String) (corpus : Corpus) (origin : Option String) :
    Except QueryError Answer :=
  match Query.ofText e.now text with
  | .ok q => e.run q corpus origin
  | .error error => .error (.unreadable error)

def evaluate (e : Engine) (expr : Expr) (corpus : Corpus) (origin : Option String) :
    Outcome Value :=
  expr.eval (e.context corpus.indexed origin) none

end Engine

end DocQuery
