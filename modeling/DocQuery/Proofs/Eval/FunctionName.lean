import DocQuery.Proofs.Eval.Variables
import DocQuery.Proofs.Expr.Respelled
import DocQuery.Proofs.Expr.Written
import DocQuery.Proofs.Token.Callee

/-!
Names of functions in another case. They are looked up in a table whose names are in small letters, so that
the value of an expression does not depend on their case; and a text with such a name in another case is
read as the same expression, unless the name then begins a date or a span.
-/

namespace DocQuery

open Lexeme Text

namespace FunctionTable

/-- In a table whose names are in lower case the case of a name does not count. -/
theorem find?_congr {t : FunctionTable} (hLower : ∀ name ∈ Keyed.names t, lower name = name)
    {name other : String} (hSame : lower name = lower other) : t.find? name = t.find? other := by
  have hFind (name : String) : t.find? name = Keyed.get? t (lower name) := by
    rw [find?]
    cases hGet : Keyed.get? t name with
    | none => rfl
    | some f =>
        have hListed : name ∈ Keyed.names t := List.mem_map_of_mem (Keyed.mem_of_get? hGet)
        rw [hLower name hListed, hGet]
        rfl
  rw [hFind, hFind, hSame]

theorem lower_of_mem_table : ∀ name ∈ Keyed.names Builtin.table, lower name = name := by decide

end FunctionTable

/-- A cause of failure without what an expression calls. -/
def EvalError.unspelled : EvalError → EvalError
  | notCallable _ => notCallable (.literal .null)
  | unknownFunction _ => unknownFunction ""
  | e => e

/-- A function is found by its name in small letters, with the same errors but for the spelling. -/
theorem Context.call_smallLetters {c : Context} (hTable : c.functions = Builtin.table) (name : String)
    (args : List Value) : (c.call name args).mapError EvalError.unspelled =
      (c.call (smallLetters name) args).mapError EvalError.unspelled := by
  have hFind := FunctionTable.find?_congr FunctionTable.lower_of_mem_table (lower_smallLetters name)
  rw [call, call, hTable, FunctionTable.call, FunctionTable.call, hFind]
  cases FunctionTable.find? Builtin.table name <;> rfl

namespace Expr

mutual

/-- An expression with its calls in small letters has the same value, and the same errors but for the
spelling. -/
theorem eval_foldCalls {c : Context} (hTable : c.functions = Builtin.table) (row : Option Object) (e : Expr) :
    (e.eval c row).mapError EvalError.unspelled = (e.foldCalls.eval c row).mapError EvalError.unspelled := by
  match e with
  | literal v => rfl
  | .name n => rfl
  | .not operand =>
      rw [foldCalls, eval, eval]
      exact mapError_bind_congr (eval_foldCalls hTable row operand) fun _ => rfl
  | binary op left right =>
      rw [foldCalls, eval, eval]
      apply mapError_bind_congr (eval_foldCalls hTable row left)
      intro l
      exact mapError_bind_congr (eval_foldCalls hTable row right) fun _ => rfl
  | list items =>
      rw [foldCalls, eval, eval, map_eq_pure_bind, map_eq_pure_bind]
      exact mapError_bind_congr (evalItems_foldItems hTable row items) fun _ => rfl
  | object entries =>
      rw [foldCalls, eval, eval]
      exact mapError_bind_congr (evalEntries_foldEntries hTable row entries) fun _ => rfl
  | .index container key =>
      rw [foldCalls, eval, eval]
      apply mapError_bind_congr (eval_foldCalls hTable row container)
      intro v
      exact mapError_bind_congr (eval_foldCalls hTable row key) fun _ => rfl
  | call callee args =>
      cases callee with
      | name n =>
          rw [foldCalls, eval, eval]
          exact mapError_bind_congr (evalItems_foldItems hTable row args)
            (Context.call_smallLetters hTable n)
      | _ => rfl

theorem evalItems_foldItems {c : Context} (hTable : c.functions = Builtin.table) (row : Option Object)
    (items : List Expr) : (evalItems c row items).mapError EvalError.unspelled =
      (evalItems c row (foldItems items)).mapError EvalError.unspelled := by
  match items with
  | [] => rfl
  | item :: rest =>
      rw [foldItems, evalItems, evalItems]
      apply mapError_bind_congr (eval_foldCalls hTable row item)
      intro v
      exact mapError_bind_congr (evalItems_foldItems hTable row rest) fun _ => rfl

theorem evalEntries_foldEntries {c : Context} (hTable : c.functions = Builtin.table) (row : Option Object)
    (entries : List (String × Expr)) : (evalEntries c row entries).mapError EvalError.unspelled =
      (evalEntries c row (foldEntries entries)).mapError EvalError.unspelled := by
  match entries with
  | [] => rfl
  | (key, item) :: rest =>
      rw [foldEntries, evalEntries, evalEntries]
      apply mapError_bind_congr (eval_foldCalls hTable row item)
      intro v
      exact mapError_bind_congr (evalEntries_foldEntries hTable row rest) fun _ => rfl

end

end Expr

namespace Lexeme

/-- Two spellings of the name of a call, with the same tokens around them. -/
theorem respelled_call {name other : String} (hCase : sameUpToAsciiCase name other = true)
    (start stop next : Nat) (us rest : List Lexeme) :
    Respelled (us ++ ⟨.identifier name, start, stop⟩ :: ⟨.symbol .openParen, stop, next⟩ :: rest)
      (us ++ ⟨.identifier other, start, stop⟩ :: ⟨.symbol .openParen, stop, next⟩ :: rest) := by
  have hCall : isCall (⟨.identifier name, start, stop⟩ :: ⟨.symbol .openParen, stop, next⟩ :: rest) = true := by
    simp [isCall]
  exact (Respelled.call hCase hCall (.refl _)).append us

end Lexeme

namespace Expr

/-- Two expressions have the same value, or fail for the same reason but for the names it is told with, for
every row and in every context with the standard functions. -/
def AnswersAs (e e' : Expr) : Prop :=
  ∀ (c : Context) (row : Option Object), c.functions = Builtin.table →
    (e.eval c row).mapError EvalError.unspelled = (e'.eval c row).mapError EvalError.unspelled

/-- Expressions that differ in the spelling of calls only answer alike. -/
theorem answersAs_of_foldCalls_eq {e e' : Expr} (h : e'.foldCalls = e.foldCalls) : e.AnswersAs e' := by
  intro c row hTable
  rw [eval_foldCalls hTable row e, eval_foldCalls hTable row e', h]

variable {now : Date} {before name other behind : String} {e : Expr}

/-- With the name of a call in another case, a text is read as an expression that answers alike. -/
theorem ofText_respelled (hRead : ofText now (before ++ name ++ "(" ++ behind) = .ok e)
    (hCallee : Scan.IsCallee now before name behind) (hCase : sameUpToAsciiCase name other = true)
    (hNone : Token.readTemporal? now other ('(' :: behind.toList) = none) :
    ∃ e', ofText now (before ++ other ++ "(" ++ behind) = .ok e' ∧ e.AnswersAs e' := by
  obtain ⟨us, hScan⟩ := hCallee.exists_scan
  have hHere := hScan name (sameUpToAsciiCase_iff.mpr rfl) hCallee.notTemporal
  have hThere := hScan other hCase hNone
  have hOpen : Scan.run now 0 (before.length + name.length) ('(' :: behind.toList) =
      (Scan.run now 0 (before.length + name.length + 1) behind.toList).cons
        ⟨.symbol .openParen, before.length + name.length, before.length + name.length + 1⟩ :=
    Scan.run_front rfl rfl _
  rw [hOpen] at hHere hThere
  rw [ofText_eq_ok_iff, hHere] at hRead
  simp only [Scan.prepend, Scan.cons, List.append_assoc, List.singleton_append] at hRead
  have hSame := respelled_call hCase before.length (before.length + name.length)
    (before.length + name.length + 1) us
    (Scan.run now 0 (before.length + name.length + 1) behind.toList).lexemes
  obtain ⟨e', hRead', hFold⟩ := readAll_respelled hSame hRead.2
  refine ⟨e', ofText_eq_ok_iff.mpr ?_, answersAs_of_foldCalls_eq hFold⟩
  rw [hThere]
  simp only [Scan.prepend, Scan.cons, List.append_assoc, List.singleton_append]
  exact ⟨hRead.1, hRead'⟩

/-- Where a text is read as an expression, the name of a call may be written in another case: the text is read
again, as an expression with the same answers. The exceptions are `date` and `dur` in small letters in front of
a date or a span that can be read, which is a literal there and no call. -/
theorem ofText_call_recased (hRead : ofText now (before ++ name ++ "(" ++ behind) = .ok e)
    (hName : ⟨.identifier name, before.length, before.length + name.length⟩ ∈
      (Scan.ofText now (before ++ name ++ "(" ++ behind)).lexemes)
    (hCase : sameUpToAsciiCase name other = true) :
    (Token.readTemporal? now other ('(' :: behind.toList) = none →
      ∃ e', ofText now (before ++ other ++ "(" ++ behind) = .ok e' ∧ e.AnswersAs e') ∧
    ∀ t length, Token.readTemporal? now other ('(' :: behind.toList) = some (t, length) →
      (other = "date" ∨ other = "dur") ∧
        ⟨t, before.length, before.length + length⟩ ∈
          (Scan.ofText now (before ++ other ++ "(" ++ behind)).lexemes := by
  have hCallee := Scan.isCallee_of_mem hName
  refine ⟨ofText_respelled hRead hCallee hCase, fun t length hTemporal => ?_⟩
  exact ⟨Token.name_of_readTemporal? hTemporal, hCallee.mem_scan hCase hTemporal⟩

/-- A call of the function `date`, of which the parenthesis would also hold a date. -/
def dateOfToday : Expr := call (.name "DATE") [.name "today"]

theorem ofText_dateOfToday : ofText ⟨0, 0, 0⟩ ("" ++ "DATE" ++ "(" ++ "today)") = .ok dateOfToday := by
  have hDate : IsFreeName "DATE" :=
    ⟨⟨'D', ['A', 'T', 'E'], by simp, by decide⟩, by simp; decide, by decide, by decide⟩
  have hToday : IsFreeName "today" :=
    ⟨⟨'t', ['o', 'd', 'a', 'y'], by simp, by decide⟩, by simp; decide, by decide, by decide⟩
  have hWritable : Writable dateOfToday := .call hDate (by simpa using .name hToday)
  have hTokens : [⟨.identifier "DATE", 0, 4⟩, ⟨.symbol .openParen, 4, 5⟩, ⟨.identifier "today", 5, 10⟩,
      ⟨.symbol .closeParen, 10, 11⟩].map Lexeme.token = dateOfToday.tokens := rfl
  have hRead := (hWritable.readsWhole hTokens).readAll_eq dateOfToday.looseness_le
    (rfl : current [⟨.finish, 11, 11⟩] = .finish)
  have hLexemes : (Scan.ofText ⟨0, 0, 0⟩ ("" ++ "DATE" ++ "(" ++ "today)")).lexemes =
      [⟨.identifier "DATE", 0, 4⟩, ⟨.symbol .openParen, 4, 5⟩, ⟨.identifier "today", 5, 10⟩,
        ⟨.symbol .closeParen, 10, 11⟩, ⟨.finish, 11, 11⟩] := by decide
  exact ofText_eq_ok_iff.mpr ⟨by decide, hLexemes ▸ hRead⟩

/-- In letters of both cases the call is read as the same call. -/
theorem ofText_call_recased_mixed :
    ofText ⟨0, 0, 0⟩ ("" ++ "DATE" ++ "(" ++ "today)") = .ok dateOfToday ∧
    sameUpToAsciiCase "DATE" "Date" = true ∧
    ∃ e', ofText ⟨0, 0, 0⟩ ("" ++ "Date" ++ "(" ++ "today)") = .ok e' ∧ dateOfToday.AnswersAs e' := by
  have hName : ⟨.identifier "DATE", "".length, "".length + "DATE".length⟩ ∈
      (Scan.ofText ⟨0, 0, 0⟩ ("" ++ "DATE" ++ "(" ++ "today)")).lexemes := by decide
  have hCase : sameUpToAsciiCase "DATE" "Date" = true := by decide
  exact ⟨ofText_dateOfToday, hCase, (ofText_call_recased ofText_dateOfToday hName hCase).1 (by decide)⟩

/-- In small letters it is a date, which has another value than the call. -/
theorem not_answersAs_of_recased : ¬∀ (now : Date) (before name other behind : String) (e : Expr),
    ofText now (before ++ name ++ "(" ++ behind) = .ok e →
    ⟨.identifier name, before.length, before.length + name.length⟩ ∈
      (Scan.ofText now (before ++ name ++ "(" ++ behind)).lexemes →
    sameUpToAsciiCase name other = true →
    ∃ e', ofText now (before ++ other ++ "(" ++ behind) = .ok e' ∧ e.AnswersAs e' := by
  intro hAlways
  obtain ⟨e', hRead, hAnswers⟩ :=
    hAlways ⟨0, 0, 0⟩ "" "DATE" "date" "today)" dateOfToday ofText_dateOfToday (by decide) (by decide)
  have hStands : Stands (literal (.date ⟨0, 0, 0⟩)) [⟨.date ⟨0, 0, 0⟩, 0, 11⟩] 0 :=
    stands_of_primary fun _ => .literal rfl
  have hLexemes : (Scan.ofText ⟨0, 0, 0⟩ ("" ++ "date" ++ "(" ++ "today)")).lexemes =
      [⟨.date ⟨0, 0, 0⟩, 0, 11⟩, ⟨.finish, 11, 11⟩] := by decide
  have hLiteral : e' = literal (.date ⟨0, 0, 0⟩) := by
    have hAll := (ofText_eq_ok_iff.mp hRead).2
    rw [hLexemes] at hAll
    exact Except.ok.inj (hAll.symm.trans (hStands.readAll_eq (Nat.zero_le _) rfl))
  have hCall : dateOfToday.eval .bare none = .ok .null := by rfl
  have hSame := hAnswers .bare none rfl
  rw [hLiteral, hCall] at hSame
  cases hSame

end Expr
end DocQuery
