import DocQuery.Corpus.Read
import DocQuery.Engine
import DocQuery.Expr.Read
import DocQuery.Json.Write
import DocQuery.Manual
import DocQuery.Settings.Read

/-!
The commands of the program as functions of texts.
-/

namespace DocQuery

inductive CommandError where
  | unreadable (error : ReadError)
  | query (error : QueryError)
  | evaluation (error : EvalError)
  | malformedJson
  | noCorpus
  | unknownCategory (name : String)

namespace CommandError

def message : CommandError → String
  | unreadable e => "Parse error: " ++ e.message
  | query e => "Query failed: " ++ e.message
  | evaluation e => "Evaluation error: " ++ e.message
  | malformedJson => "Invalid JSON"
  | noCorpus =>
    "No corpus provided. Use --corpus or pipe a JSON array of documents to stdin."
  | unknownCategory name =>
    "Unknown category: '" ++ name ++ "'\nRun 'quarry docs' to see available categories."

end CommandError

inductive CommandResult where
  /-- The text could be read, and no more was wanted. -/
  | readable
  | json (j : Json)

namespace CommandResult

def text (pretty : Bool) : CommandResult → String
  | readable => "Syntax is valid"
  | json j => if pretty then j.pretty else j.text

end CommandResult

structure CommandOptions where
  /-- The query or expression. -/
  text : String
  /-- The text of a list of documents. -/
  corpus : Option String := none
  /-- The path of the document that the text stands in. -/
  origin : Option String := none
  settings : Settings := {}
  /-- Whether the text is only to be read. -/
  readOnly : Bool := false

namespace CommandOptions

def readCorpus (text : String) : Except CommandError Corpus :=
  match Corpus.ofText? text with
  | some corpus => .ok corpus
  | none => .error .malformedJson

/-- Reads a query and answers it over the corpus, without which there is no answer. -/
def query (o : CommandOptions) (now : Date) : Except CommandError CommandResult := do
  let q ← (Query.ofText now o.text).mapError CommandError.unreadable
  if o.readOnly then return .readable
  let some text := o.corpus | throw .noCorpus
  let corpus ← readCorpus text
  let engine : Engine := { settings := o.settings, now }
  let answer ← (engine.run q corpus o.origin).mapError CommandError.query
  return .json (answer.body.toJson o.settings)

/-- Reads an expression and evaluates it; without a corpus there are no documents. -/
def eval (o : CommandOptions) (now : Date) : Except CommandError CommandResult := do
  let expr ← (Expr.ofText now o.text).mapError CommandError.unreadable
  if o.readOnly then return .readable
  let corpus ← match o.corpus with
    | some text => readCorpus text
    | none => pure {}
  let engine : Engine := { settings := o.settings, now }
  let v ← (engine.evaluate expr corpus o.origin).mapError fun e =>
    CommandError.query (.evaluation e)
  return .json v.toJson

end CommandOptions

def manualPage (name : String) : Except CommandError String :=
  match Manual.Topic.ofName? name with
  | some topic => .ok topic.text
  | none => .error (.unknownCategory name)

end DocQuery
