import DocQuery.Expr.Read
import DocQuery.Query.Basic

/-!
Reading sources and whole queries from tokens. The clauses of a query stand in any order. All sources
are joined by `or`; a condition directly behind another condition of the same kind is joined to it,
and so are sort fields behind sort fields.
-/

namespace DocQuery

open Lexeme

namespace Source

/-- Joins two sources by a symbol that can stand between them. -/
def join? : Token → Option (Source → Source → Source)
  | .symbol .and => some Source.and
  | .symbol .or => some Source.or
  | _ => none

/-- Takes the next token, which must be a link. -/
def takeLink (what : String) : (ts : List Lexeme) → Reading Link ts
  | [] => .error (missing [] what)
  | t :: rest =>
    match t.token with
    | .link l => .ok ⟨l, rest, length_lt_cons t rest⟩
    | _ => .error (missing (t :: rest) what)

def readTarget (ts : List Lexeme) : Reading String ts := do
  let opening ← takeSymbol .openParen ts
  have := opening.within
  let l ← takeLink "a link in outgoing()" opening.rest
  have := l.within
  let close ← takeSymbol .closeParen l.rest
  have := close.within
  return ⟨l.value.path, close.rest, by omega⟩

mutual

/-- Reads sources joined by `and` and `or`, which bind equally and associate to the left. -/
def read (ts : List Lexeme) : Reading Source ts := do
  let left ← readAtom ts
  have := left.within
  let chain ← readChain left.value left.rest
  return chain.widen (Nat.succ_le_of_lt left.within)
termination_by (ts.length, 1)

/-- Reads further sources behind their left neighbour. -/
def readChain (left : Source) (ts : List Lexeme) : Continuation Source ts :=
  match ts with
  | [] => .ok ⟨left, [], Nat.lt_succ_self _⟩
  | t :: rest =>
    match join? t.token with
    | none => .ok ⟨left, t :: rest, Nat.lt_succ_self _⟩
    | some join => do
      let right ← readAtom rest
      have := right.within
      let chain ← readChain (join left right.value) right.rest
      return chain.widen (by simp only [List.length_cons]; omega)
termination_by (ts.length, 0)

/-- Reads a tag, a folder, a link, a negation or a source in parentheses. -/
def readAtom (ts : List Lexeme) : Reading Source ts :=
  let what := "a tag, folder, link or outgoing([[link]]) source"
  match ts with
  | [] => .error (missing [] what)
  | t :: rest =>
    match t.token with
    | .tag text => .ok ⟨tag text, rest, Nat.lt_succ_self _⟩
    | .string path => .ok ⟨folder path, rest, Nat.lt_succ_self _⟩
    | .link l => .ok ⟨link l.path .incoming, rest, Nat.lt_succ_self _⟩
    | .identifier name =>
      if Text.sameUpToAsciiCase name "outgoing" then do
        let target ← readTarget rest
        return (target.map (link · .outgoing)).widen (Nat.le_succ _)
      else .error (missing (t :: rest) what)
    | .symbol .minus => do
      let source ← readAtom rest
      return (source.map not).widen (Nat.le_succ _)
    | .symbol .bang => do
      let source ← readAtom rest
      return (source.map not).widen (Nat.le_succ _)
    | .symbol .openParen => do
      let source ← read rest
      have := source.within
      let close ← takeSymbol .closeParen source.rest
      have := close.within
      return ⟨source.value, close.rest, by simp only [List.length_cons]; omega⟩
    | _ => .error (missing (t :: rest) what)
termination_by (ts.length, 0)

end

/-- Reads the source at the front of a text; what follows it is left unread. -/
def ofText (now : Date) (text : String) : Except ReadError Source :=
  ((Scan.ofText now text).lexemes?.bind fun ts => (read ts).map Parsed.value).mapError
    (ReadError.locate text)

end Source

namespace NamedExpr

/-- The text from the first of some tokens up to the tokens that were left, without blanks at its
ends. -/
def sourceText (text : List Char) (ts rest : List Lexeme) : String :=
  let consumed := ts.take (ts.length - rest.length)
  let stop := (consumed.getLast?.map Lexeme.stop).getD 0
  let start := currentStart ts
  String.ofList (Text.trim ((text.drop start).take (stop - start)))

/-- Reads an expression with a name behind `AS`; without one its own text is its name. -/
def read (text : List Char) (ts : List Lexeme) : Reading NamedExpr ts := do
  let e ← Expr.read ts
  have := e.length_rest_lt
  if isWord "AS" e.rest then
    let name ← takeLabel "a name after AS" (e.rest.drop 1)
    have := name.within
    return ⟨⟨name.value, e.value⟩, name.rest, by simp only [List.length_drop] at *; omega⟩
  else return ⟨⟨sourceText text ts e.rest, e.value⟩, e.rest, e.length_rest_lt⟩

/-- Reads named expressions behind the first one, each after a comma. -/
def readMore (text : List Char) (ts : List Lexeme) : Continuation (List NamedExpr) ts :=
  match ts with
  | [] => .ok ⟨[], [], Nat.lt_succ_self _⟩
  | t :: rest =>
    if t.token = .symbol .comma then do
      let named ← read text rest
      have := named.within
      let others ← readMore text named.rest
      have := others.within
      return ⟨named.value :: others.value, others.rest, by simp only [List.length_cons]; omega⟩
    else .ok ⟨[], t :: rest, Nat.lt_succ_self _⟩
termination_by ts.length

end NamedExpr

namespace SortField

def readDirection (ts : List Lexeme) : Parsed SortDirection (ts.length + 1) :=
  if isWord "ASC" ts || isWord "ASCENDING" ts then
    ⟨.ascending, ts.drop 1, by simp only [List.length_drop]; omega⟩
  else if isWord "DESC" ts || isWord "DESCENDING" ts then
    ⟨.descending, ts.drop 1, by simp only [List.length_drop]; omega⟩
  else ⟨.ascending, ts, Nat.lt_succ_self _⟩

def readOne (ts : List Lexeme) : Reading SortField ts := do
  let e ← Expr.read ts
  have := e.length_rest_lt
  let direction := readDirection e.rest
  have := direction.within
  return ⟨⟨e.value, direction.value⟩, direction.rest, by omega⟩

/-- Reads sort fields behind the first one, each after a comma. -/
def readMore (ts : List Lexeme) : Continuation (List SortField) ts :=
  match ts with
  | [] => .ok ⟨[], [], Nat.lt_succ_self _⟩
  | t :: rest =>
    if t.token = .symbol .comma then do
      let field ← readOne rest
      have := field.within
      let others ← readMore field.rest
      have := others.within
      return ⟨field.value :: others.value, others.rest, by simp only [List.length_cons]; omega⟩
    else .ok ⟨[], t :: rest, Nat.lt_succ_self _⟩
termination_by ts.length

def read (ts : List Lexeme) : Reading (List SortField) ts := do
  let field ← readOne ts
  have := field.within
  let others ← readMore field.rest
  have := others.within
  return ⟨field.value :: others.value, others.rest, by omega⟩

end SortField

namespace Header

/-- The fault of a text that does not begin with the shape of a query. -/
def missingShape (ts : List Lexeme) : FaultAt :=
  missing ts "a query type (TABLE, LIST, TASK or CALENDAR)"

/-- Whether the fields of a header end here: at the end, or where a clause begins. -/
def atBoundary (ts : List Lexeme) : Bool :=
  match current ts with
  | .finish => true
  | .identifier name => isReserved name && !isCall ts
  | _ => false

/-- Takes the words `WITHOUT ID`, if they come next. -/
def takeWithoutId (ts : List Lexeme) : Parsed Bool (ts.length + 1) :=
  if isWord "WITHOUT" ts && isWord "ID" (ts.drop 1) then
    ⟨false, ts.drop 2, by simp only [List.length_drop]; omega⟩
  else ⟨true, ts, Nat.lt_succ_self _⟩

/-- Reads the columns of a table, of which there may be none. -/
def readColumns (text : List Char) (ts : List Lexeme) : Continuation (List NamedExpr) ts :=
  if atBoundary ts then .ok ⟨[], ts, Nat.lt_succ_self _⟩
  else do
    let named ← NamedExpr.read text ts
    have := named.within
    let others ← NamedExpr.readMore text named.rest
    have := others.within
    return ⟨named.value :: others.value, others.rest, by omega⟩

/-- Reads the format of a list, which may be missing. -/
def readFormat (ts : List Lexeme) : Continuation (Option Expr) ts :=
  if atBoundary ts then .ok ⟨none, ts, Nat.lt_succ_self _⟩
  else do
    let e ← Expr.read ts
    return (e.map some).widen (Nat.le_succ _)

def read (text : List Char) (ts : List Lexeme) : Reading Header ts :=
  match ts with
  | [] => .error (missingShape [])
  | t :: rest =>
    match t.token with
    | .identifier word =>
      match Text.upper word with
      | "TABLE" => do
        let showId := takeWithoutId rest
        let columns ← readColumns text showId.rest
        return (columns.map (table · showId.value)).widen showId.within
      | "LIST" => do
        let showId := takeWithoutId rest
        let format ← readFormat showId.rest
        return (format.map (list · showId.value)).widen showId.within
      | "TASK" => .ok ⟨task, rest, Nat.lt_succ_self _⟩
      | "CALENDAR" => do
        let field ← NamedExpr.read text rest
        return (field.map calendar).widen (Nat.le_succ _)
      | _ => .error (missingShape (t :: rest))
    | _ => .error (missingShape (t :: rest))

end Header

namespace Operation

/-- One operation for two neighbours of the same kind, where there is one. -/
def join? : Operation → Operation → Option Operation
  | filter a, filter b => some (filter (.binary .and a b))
  | having a, having b => some (having (.binary .and a b))
  | sort fields, sort others => some (sort (fields ++ others))
  | _, _ => none

/-- Adds an operation behind others, joined to the last one where that is possible. -/
def append : List Operation → Operation → List Operation
  | [], new => [new]
  | [last], new =>
    match last.join? new with
    | some joined => [joined]
    | none => [last, new]
  | first :: second :: rest, new => first :: append (second :: rest) new

end Operation

/-- A clause of a query: a source, or an operation. -/
inductive Clause where
  | source (source : Source)
  | operation (operation : Operation)

namespace Clause

/-- Takes the word `BY`. -/
def takeBy (ts : List Lexeme) : Reading Unit ts :=
  match ts with
  | [] => .error (missing [] "'BY'")
  | t :: rest =>
    if isWord "BY" (t :: rest) then .ok ⟨(), rest, Nat.lt_succ_self _⟩
    else .error (missing (t :: rest) "'BY'")

def read (text : List Char) (ts : List Lexeme) : Reading Clause ts :=
  match ts with
  | [] => .error (missing [] "a query clause")
  | t :: rest =>
    match t.token with
    | .identifier word =>
      match Text.upper word with
      | "FROM" => do
        let selected ← Source.read rest
        return (selected.map source).widen (Nat.le_succ _)
      | "WHERE" => do
        let clause ← Expr.read rest
        return (clause.map fun e => operation (.filter e)).widen (Nat.le_succ _)
      | "HAVING" => do
        let clause ← Expr.read rest
        return (clause.map fun e => operation (.having e)).widen (Nat.le_succ _)
      | "SORT" => do
        let fields ← SortField.read rest
        return (fields.map fun fields => operation (.sort fields)).widen (Nat.le_succ _)
      | "LIMIT" => do
        let amount ← Expr.read rest
        return (amount.map fun e => operation (.limit e)).widen (Nat.le_succ _)
      | "FLATTEN" => do
        let target ← NamedExpr.read text rest
        return (target.map fun named => operation (.flatten named)).widen (Nat.le_succ _)
      | "GROUP" => do
        let opening ← takeBy rest
        have := opening.within
        let key ← NamedExpr.read text opening.rest
        return (key.map fun named => operation (.group named)).widen
          (by simp only [List.length_cons]; omega)
      | upper => .error (faultHere (t :: rest) (.unknownClause upper))
    | _ => .error (missing (t :: rest) "a query clause")

/-- Reads the clauses up to the end of the text. -/
def readAll (text : List Char) (ts : List Lexeme) : Except FaultAt (List Clause) :=
  if current ts = .finish then .ok []
  else do
    let clause ← read text ts
    have := clause.within
    return clause.value :: (← readAll text clause.rest)
termination_by ts.length

end Clause

namespace Query

def add (q : Query) : Clause → Query
  | .source source => { q with source := q.source.orElse source }
  | .operation operation => { q with operations := Operation.append q.operations operation }

def readAll (text : List Char) (ts : List Lexeme) : Except FaultAt Query := do
  let header ← Header.read text ts
  let clauses ← Clause.readAll text header.rest
  return clauses.foldl add ⟨header.value, .everything, []⟩

/-- Reads a text as a query; named dates are those around the given present. -/
def ofText (now : Date) (text : String) : Except ReadError Query :=
  ((Scan.ofText now text).lexemes?.bind (readAll text.toList)).mapError (ReadError.locate text)

end Query

end DocQuery
