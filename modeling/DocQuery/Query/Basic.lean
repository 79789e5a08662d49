import DocQuery.Expr.Basic

/-!
Queries: a header for the shape of the answer, a source of documents and operations on their rows.
-/

namespace DocQuery

/-- The side of a link from which documents are selected. -/
inductive LinkDirection where
  /-- Documents that link to the given one. -/
  | incoming
  /-- Documents that the given one links to. -/
  | outgoing
  deriving DecidableEq

inductive Source where
  /-- Every document. -/
  | everything
  | tag (tag : String)
  | folder (folder : String)
  | link (target : String) (direction : LinkDirection)
  | not (source : Source)
  | and (left right : Source)
  | or (left right : Source)
  deriving DecidableEq

/-- Adds an alternative to a selection that may not have been written yet. -/
def Source.orElse : Source → Source → Source
  | .everything, other => other
  | written, other => .or written other

inductive SortDirection where
  | ascending | descending
  deriving DecidableEq

structure SortField where
  expr : Expr
  direction : SortDirection

inductive QueryType where
  | list | table | task | calendar
  deriving DecidableEq

def QueryType.name : QueryType → String
  | list => "list"
  | table => "table"
  | task => "task"
  | calendar => "calendar"

inductive Header where
  | list (format : Option Expr) (showId : Bool)
  | table (columns : List NamedExpr) (showId : Bool)
  | task
  | calendar (field : NamedExpr)

def Header.type : Header → QueryType
  | list .. => .list
  | table .. => .table
  | task => .task
  | calendar _ => .calendar

inductive Operation where
  /-- Keeps the rows for which the clause counts as true. -/
  | filter (clause : Expr)
  /-- The same, conventionally behind a grouping. -/
  | having (clause : Expr)
  | sort (fields : List SortField)
  /-- Keeps the first rows; their number is evaluated once. -/
  | limit (amount : Expr)
  /-- One row for each element of an array. -/
  | flatten (target : NamedExpr)
  /-- One row for each key. -/
  | group (key : NamedExpr)

def Operation.kind : Operation → String
  | filter _ => "where"
  | having _ => "having"
  | sort _ => "sort"
  | limit _ => "limit"
  | flatten _ => "flatten"
  | group _ => "group"

structure Query where
  header : Header
  source : Source
  operations : List Operation

end DocQuery
