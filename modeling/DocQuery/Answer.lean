import DocQuery.Pipeline
import DocQuery.Value.Exchange

/-!
Answers of queries, and their form in the exchange notation.
-/

namespace DocQuery

/-- Tasks, in groups as deeply as they were grouped. -/
inductive TaskTree where
  | items (tasks : List Value)
  | groups (groups : List (Value × TaskTree))
  deriving Inhabited

namespace TaskTree

mutual

def count : TaskTree → Nat
  | items tasks => tasks.length
  | groups gs => countGroups gs

def countGroups : List (Value × TaskTree) → Nat
  | [] => 0
  | (_, tree) :: rest => count tree + countGroups rest

end

mutual

def toJson : TaskTree → Json
  | items tasks => .array (tasks.map Value.toJson)
  | groups gs => .array (groupsToJson gs)

def groupsToJson : List (Value × TaskTree) → List Json
  | [] => []
  | (key, tree) :: rest =>
    .ofMembers [("key", key.toJson), ("rows", toJson tree)] :: groupsToJson rest

end

/-- The tasks of rows, which are groups as deeply as their identifiers say. A task is shown without
what is known about its file. -/
def ofRows : IdMeaning → List Row → TaskTree
  | .path, rows => items (rows.map fun row => .object (Keyed.remove row.fields "file"))
  | .group _ on, rows => groups (rows.map fun row => (row.id, ofRows on row.members))

end TaskTree

structure CalendarEntry where
  date : Date
  /-- The identifier of the row, mostly a link to its document. -/
  link : Value
  value : Value

inductive AnswerBody where
  | table (headers : List String) (rows : List (List Value))
  | list (items : List Value)
  | task (tasks : TaskTree)
  | calendar (entries : List CalendarEntry)

namespace AnswerBody

def type : AnswerBody → QueryType
  | table .. => .table
  | list _ => .list
  | task _ => .task
  | calendar _ => .calendar

/-- The number of rows, items, tasks or entries. -/
def count : AnswerBody → Nat
  | table _ rows => rows.length
  | list items => items.length
  | task tasks => tasks.count
  | calendar entries => entries.length

def members : AnswerBody → List (String × Json)
  | table headers rows => [
      ("headers", .array (headers.map Json.string)),
      ("values", .array (rows.map fun row => .array (row.map Value.toJson)))]
  | list items => [("values", .array (items.map Value.toJson))]
  | task tasks => [("tasks", tasks.toJson)]
  | calendar entries => [("entries", .array (entries.map fun entry => .ofMembers [
      ("date", .string entry.date.isoText), ("link", entry.link.toJson),
      ("value", entry.value.toJson)]))]

/-- The document of an answer, with the number of its rows if the settings ask for it. -/
def toJson (settings : Settings) (body : AnswerBody) : Json :=
  let count := if settings.showCount then [("count", Json.integer body.count)] else []
  .ofMembers ([("type", .string body.type.name)] ++ body.members ++ count)

end AnswerBody

/-- An answer, with what the identifiers of its rows mean and what the stages did. -/
structure Answer where
  body : AnswerBody
  meaning : IdMeaning
  diagnostics : List Diagnostics

end DocQuery
