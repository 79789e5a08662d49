import DocQuery.Expr.Basic
import DocQuery.Token.Scan

/-!
Reading expressions from tokens. Binary operators of four levels associate to the left; below them
come unary signs, then chains of indexing and calls, then the parts in brackets and the literals.
Every reader gives back the tokens behind what it read together with the fact that they are fewer,
which is why reading comes to an end.
-/

namespace DocQuery

/-- A value that was read, and the tokens behind it, of which there are fewer than a bound. -/
structure Parsed (α : Type) (bound : Nat) where
  value : α
  rest : List Lexeme
  within : rest.length < bound

namespace Parsed

variable {α β : Type} {n m : Nat}

/-- The same result for a larger bound. -/
def widen (p : Parsed α n) (h : n ≤ m) : Parsed α m := ⟨p.value, p.rest, Nat.lt_of_lt_of_le p.within h⟩

/-- What is left is shorter than what was read from. -/
theorem length_rest_lt {ts : List Lexeme} (p : Parsed α ts.length) : p.rest.length < ts.length :=
  p.within

def map (f : α → β) (p : Parsed α n) : Parsed β n := ⟨f p.value, p.rest, p.within⟩

end Parsed

/-- The result of a reader that takes at least one of the given tokens. -/
abbrev Reading (α : Type) (ts : List Lexeme) := Except FaultAt (Parsed α ts.length)

/-- The result of a reader that may take none of the given tokens. -/
abbrev Continuation (α : Type) (ts : List Lexeme) := Except FaultAt (Parsed α (ts.length + 1))

namespace Lexeme

/-- The next token; behind the last one the text is at its end. -/
def current : List Lexeme → Token
  | [] => .finish
  | t :: _ => t.token

/-- Behind a token there are fewer tokens. -/
theorem length_lt_cons (t : Lexeme) (rest : List Lexeme) : rest.length < (t :: rest).length :=
  Nat.lt_succ_self _

/-- The offset at which the next token begins. -/
def currentStart : List Lexeme → Nat
  | [] => 0
  | t :: _ => t.start

def faultHere (ts : List Lexeme) (fault : ReadFault) : FaultAt := ⟨fault, currentStart ts⟩

def missing (ts : List Lexeme) (what : String) : FaultAt :=
  faultHere ts (.expected what (current ts))

/-- Takes the next token, which must be a given symbol. -/
def takeSymbol (symbol : Symbol) : (ts : List Lexeme) → Reading Unit ts
  | [] => .error (missing [] (Token.symbol symbol).display)
  | t :: rest =>
    if t.token = .symbol symbol then .ok ⟨(), rest, Nat.lt_succ_self _⟩
    else .error (missing (t :: rest) (Token.symbol symbol).display)

/-- Takes the next token, which must be a name. -/
def takeName (what : String) : (ts : List Lexeme) → Reading String ts
  | [] => .error (missing [] what)
  | t :: rest =>
    match t.token with
    | .identifier name => .ok ⟨name, rest, Nat.lt_succ_self _⟩
    | _ => .error (missing (t :: rest) what)

/-- Takes the next token, which must be a name or a string. -/
def takeLabel (what : String) : (ts : List Lexeme) → Reading String ts
  | [] => .error (missing [] what)
  | t :: rest =>
    match t.token with
    | .identifier name => .ok ⟨name, rest, Nat.lt_succ_self _⟩
    | .string s => .ok ⟨s, rest, Nat.lt_succ_self _⟩
    | _ => .error (missing (t :: rest) what)

/-- Whether the next token is a given word in any letter case. -/
def isWord (word : String) (ts : List Lexeme) : Bool :=
  match current ts with
  | .identifier name => Text.sameUpToAsciiCase name word
  | _ => false

/-- Whether a name with an opening parenthesis directly behind it comes next. -/
def isCall : List Lexeme → Bool
  | t :: u :: _ =>
    (match t.token with
      | .identifier _ => true
      | _ => false) && u.token == .symbol .openParen && t.stop == u.start
  | _ => false

end Lexeme

def reservedWords : List String :=
  ["FROM", "WHERE", "LIMIT", "GROUP", "FLATTEN", "SORT", "HAVING"]

def isReserved (name : String) : Bool := reservedWords.any (Text.sameUpToAsciiCase name)

namespace Expr

open Lexeme

/-- The literal that a token stands for; a tag stands for its text. -/
def ofToken? : Token → Option Expr
  | .number n => some (literal (.number n))
  | .string s => some (literal (.string s))
  | .boolean b => some (literal (.boolean b))
  | .null => some (literal .null)
  | .link l => some (literal (.link l))
  | .tag t => some (literal (.string t))
  | .date d => some (literal (.date d))
  | .duration d => some (literal (.duration d))
  | _ => none

/-- The operator of a given level that a token stands for. -/
def opOfLevel? (level : Nat) : Token → Option Op
  | .symbol s => s.op?.filter fun op => op.level == level
  | _ => none

/-- The expression with the opposite sign: a number changes its own sign, all else is multiplied by
minus one. -/
def negate : Expr → Expr
  | literal (.number n) => literal (.number (-n))
  | e => binary .multiply (literal (.number (-1))) e

mutual

/-- Reads an expression whose operators have at most the given level. -/
def readLevel (level : Nat) (ts : List Lexeme) : Reading Expr ts :=
  match level with
  | 0 => readUnary ts
  | below + 1 => do
    let left ← readLevel below ts
    have := left.within
    let chain ← readChain below left.value left.rest
    return chain.widen (Nat.succ_le_of_lt left.within)
termination_by (ts.length, level + 3)

/-- Reads further operators of the level above `below` behind their left operand. -/
def readChain (below : Nat) (left : Expr) (ts : List Lexeme) : Continuation Expr ts :=
  match ts with
  | [] => .ok ⟨left, [], Nat.lt_succ_self _⟩
  | t :: rest =>
    match opOfLevel? (below + 1) t.token with
    | none => .ok ⟨left, t :: rest, Nat.lt_succ_self _⟩
    | some op => do
      let right ← readLevel below rest
      have := right.within
      let chain ← readChain below (binary op left right.value) right.rest
      return chain.widen (by simp only [List.length_cons]; omega)
termination_by (ts.length, 0)

/-- Reads an operand with its signs. -/
def readUnary (ts : List Lexeme) : Reading Expr ts :=
  match ts with
  | [] => readPostfix []
  | t :: rest =>
    if t.token = .symbol .bang then do
      let operand ← readUnary rest
      return (operand.map not).widen (Nat.le_succ _)
    else if t.token = .symbol .minus then do
      let operand ← readUnary rest
      return (operand.map negate).widen (Nat.le_succ _)
    else readPostfix (t :: rest)
termination_by (ts.length, 2)

/-- Reads a primary expression and what is indexed or called on it. -/
def readPostfix (ts : List Lexeme) : Reading Expr ts := do
  let base ← readPrimary ts
  have := base.within
  let chain ← readSuffixes base.value base.rest
  return chain.widen (Nat.succ_le_of_lt base.within)
termination_by (ts.length, 1)

/-- Reads fields, indices and arguments behind an expression. -/
def readSuffixes (base : Expr) (ts : List Lexeme) : Continuation Expr ts :=
  match ts with
  | [] => .ok ⟨base, [], Nat.lt_succ_self _⟩
  | t :: rest =>
    if t.token = .symbol .dot then do
      let name ← takeName "field name after '.'" rest
      have := name.within
      let chain ← readSuffixes (property base name.value) name.rest
      return chain.widen (by simp only [List.length_cons]; omega)
    else if t.token = .symbol .openBracket then do
      let inner ← readLevel Op.maxLevel rest
      have := inner.within
      let close ← takeSymbol .closeBracket inner.rest
      have := close.within
      let chain ← readSuffixes (index base inner.value) close.rest
      return chain.widen (by simp only [List.length_cons]; omega)
    else if t.token = .symbol .openParen then do
      let args ← readItems .closeParen rest
      have := args.within
      let chain ← readSuffixes (call base args.value) args.rest
      return chain.widen (by simp only [List.length_cons]; omega)
    else .ok ⟨base, t :: rest, Nat.lt_succ_self _⟩
termination_by (ts.length, 0)

/-- Reads a literal, a name, or an expression in brackets of any kind. -/
def readPrimary (ts : List Lexeme) : Reading Expr ts :=
  match ts with
  | [] => .error (faultHere [] (.unexpectedInExpression .finish))
  | t :: rest =>
    match ofToken? t.token, t.token with
    | some e, _ => .ok ⟨e, rest, Nat.lt_succ_self _⟩
    | none, .identifier word =>
      if isReserved word && !isCall (t :: rest) then .error (faultHere (t :: rest) (.reservedWord word))
      else .ok ⟨name word, rest, Nat.lt_succ_self _⟩
    | none, .symbol .openParen => do
      let inner ← readLevel Op.maxLevel rest
      have := inner.within
      let close ← takeSymbol .closeParen inner.rest
      have := close.within
      return ⟨inner.value, close.rest, by simp only [List.length_cons]; omega⟩
    | none, .symbol .openBracket => do
      let items ← readItems .closeBracket rest
      return (items.map list).widen (Nat.le_succ _)
    | none, .symbol .openBrace => do
      let entries ← readEntries rest
      return (entries.map fun entries => object (Keyed.ofList entries)).widen (Nat.le_succ _)
    | none, token => .error (faultHere (t :: rest) (.unexpectedInExpression token))
termination_by (ts.length, 0)

/-- Reads expressions separated by commas up to a closing bracket, which may follow a comma. -/
def readItems (closing : Symbol) (ts : List Lexeme) : Reading (List Expr) ts :=
  match ts with
  | [] => .error (faultHere [] (.unexpectedInExpression .finish))
  | t :: rest =>
    if t.token = .symbol closing then .ok ⟨[], rest, Nat.lt_succ_self _⟩
    else do
      let item ← readLevel Op.maxLevel (t :: rest)
      have := item.within
      if current item.rest = .symbol closing then
        let close ← takeSymbol closing item.rest
        have := close.within
        return ⟨[item.value], close.rest, by omega⟩
      else
        let comma ← takeSymbol .comma item.rest
        have := comma.within
        have : comma.rest.length < (t :: rest).length := by omega
        let others ← readItems closing comma.rest
        have := others.within
        return ⟨item.value :: others.value, others.rest, by omega⟩
termination_by (ts.length, Op.maxLevel + 4)

/-- Reads the entries of an object up to its closing brace, which may follow a comma. -/
def readEntries (ts : List Lexeme) : Reading (List (String × Expr)) ts :=
  match ts with
  | [] => .error (missing [] "string or identifier as object key")
  | t :: rest =>
    if t.token = .symbol .closeBrace then .ok ⟨[], rest, Nat.lt_succ_self _⟩
    else do
      let key ← takeLabel "string or identifier as object key" (t :: rest)
      have := key.within
      let colon ← takeSymbol .colon key.rest
      have := colon.within
      have : colon.rest.length < (t :: rest).length := by omega
      let value ← readLevel Op.maxLevel colon.rest
      have := value.within
      if current value.rest = .symbol .closeBrace then
        let close ← takeSymbol .closeBrace value.rest
        have := close.within
        return ⟨[(key.value, value.value)], close.rest, by omega⟩
      else
        let comma ← takeSymbol .comma value.rest
        have := comma.within
        have : comma.rest.length < (t :: rest).length := by omega
        let others ← readEntries comma.rest
        have := others.within
        return ⟨(key.value, value.value) :: others.value, others.rest, by omega⟩
termination_by (ts.length, 0)

end

def read (ts : List Lexeme) : Reading Expr ts := readLevel Op.maxLevel ts

def readAll (ts : List Lexeme) : Except FaultAt Expr := do
  let e ← read ts
  if current e.rest = .finish then return e.value
  else throw (missing e.rest Token.finish.display)

/-- Reads a text as one expression; named dates are those around the given present. -/
def ofText (now : Date) (text : String) : Except ReadError Expr :=
  ((Scan.ofText now text).lexemes?.bind readAll).mapError (ReadError.locate text)

end Expr

end DocQuery
