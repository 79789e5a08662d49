import Mathlib
import DocQuery.Proofs.Pipeline.Faults
import DocQuery.Proofs.Pipeline.Regroup

/-!
The diagnostics of a run as an account of its rows. Each stage records what came in, what went out and
which rows were left out with an error, and the entries of a run form a chain from the rows that it
starts with to those that it returns.
-/

namespace DocQuery

variable {c : Context} {meaning : IdMeaning} {operation : Operation}

/-- How the counts of an entry fit together depends on the operation. An undone grouping has no errors;
any other flattening may let through any number of rows. -/
def Diagnostics.Balances (c : Context) (meaning : IdMeaning) (d : Diagnostics) : Operation → Prop
  | .filter _ => d.outgoing + d.errors.length ≤ d.incoming
  | .having _ => d.outgoing + d.errors.length ≤ d.incoming
  | .sort _ => d.outgoing + d.errors.length = d.incoming
  | .limit amount => d.errors = [] ∧
      ∃ count, Stage.LimitsTo c amount count ∧ d.outgoing = min count d.incoming
  | .group _ => d.outgoing ≤ d.incoming - d.errors.length ∧
      (0 < d.incoming - d.errors.length → 0 < d.outgoing)
  | .flatten target => meaning.groupName? = some target.name → d.errors = []

/-- The entry of an operation on a number of rows. -/
structure Diagnostics.Accounts (c : Context) (meaning : IdMeaning) (operation : Operation)
    (incoming : Nat) (d : Diagnostics) : Prop where
  kind : d.operation = operation.kind
  incoming : d.incoming = incoming
  ascending : d.errors.Pairwise fun a b => a.index < b.index
  below : ∀ e ∈ d.errors, e.index < d.incoming
  passes : d.errors.length = d.incoming → d.incoming = 0
  balances : d.Balances c meaning operation

/-- The entries of operations in order, from a number of rows to another one. What goes out of a stage
comes into the next one. -/
inductive Ledger (c : Context) :
    IdMeaning → Nat → List Operation → List Diagnostics → Nat → Prop where
  | nil {meaning : IdMeaning} {count : Nat} : Ledger c meaning count [] [] count
  | cons {meaning : IdMeaning} {incoming returned : Nat} {operation : Operation}
      {operations : List Operation} {entry : Diagnostics} {entries : List Diagnostics}
      (first : entry.Accounts c meaning operation incoming)
      (rest : Ledger c (meaning.behind operation) entry.outgoing operations entries returned) :
      Ledger c meaning incoming (operation :: operations) (entry :: entries) returned

namespace Stage

variable {rows : List Row}

/-- The rows that are kept and those that fail are no more than all rows. -/
theorem length_filter_rows (clause : Expr) (rows : List Row) :
    (filter c clause rows).rows.length + (filter c clause rows).errors.length ≤ rows.length := by
  rw [← length_evaluate (valueOf c clause) rows]
  refine Nat.add_le_add_right ?_ _
  rw [filter, andThen, List.length_map]
  exact List.length_filter_le _ _

/-- Sorting keeps every row that has values. -/
theorem length_sort_rows (fields : List SortField) (rows : List Row) :
    (sort c fields rows).rows.length + (sort c fields rows).errors.length = rows.length := by
  rw [← length_evaluate (keysOf c fields) rows, sort, andThen, List.length_map, Sequence.sortBy,
    List.length_mergeSort]

/-- No more groups than rows with a key, and some group if there is such a row. -/
theorem length_group_rows (key : NamedExpr) (rows : List Row) :
    (group c key rows).rows.length ≤ rows.length - (group c key rows).errors.length ∧
      (0 < rows.length - (group c key rows).errors.length → 0 < (group c key rows).rows.length) := by
  have hKeyed : rows.length - (group c key rows).errors.length =
      (evaluate (valueOf c key.expr) rows).rows.length :=
    Nat.sub_eq_of_eq_add (length_evaluate _ _).symm
  rw [hKeyed, group, andThen, List.length_map]
  refine ⟨Sequence.length_groupBy_le _, fun hSome => ?_⟩
  exact List.length_pos_iff.mpr (Sequence.groupBy_ne_nil (List.length_pos_iff.mp hSome))

end Stage

namespace Pipeline

variable {p q : Pipeline} {s : Stage Row}

/-- Every attempt accounts for its rows. -/
theorem attempt_balances (h : p.attempt c operation = .ok (meaning, s)) :
    Diagnostics.Balances c p.meaning ⟨operation.kind, p.rows.length, s.rows.length, s.errors⟩
      operation := by
  obtain ⟨_, hErrors⟩ := attempt_records h
  cases operation with
  | filter clause | having clause =>
      cases h
      exact Stage.length_filter_rows clause p.rows
  | sort fields =>
      cases h
      exact Stage.length_sort_rows fields p.rows
  | limit amount =>
      obtain ⟨count, hCount, rfl, rfl⟩ := attempt_limit_eq_ok_iff.mp h
      exact ⟨rfl, count, hCount, List.length_take⟩
  | group key =>
      cases h
      exact Stage.length_group_rows key p.rows
  | flatten target =>
      intro hUndo
      rw [hErrors, fault?_undo hUndo, Stage.faults_none]

/-- A step leads to the meaning behind its operation and adds the entry of the operation. -/
theorem step_accounts (h : p.step c operation = .ok q) :
    ∃ entry, q.diagnostics = p.diagnostics ++ [entry] ∧ entry.outgoing = q.rows.length ∧
      q.meaning = p.meaning.behind operation ∧
      entry.Accounts c p.meaning operation p.rows.length := by
  obtain ⟨meaning, s, hAttempt, hPasses, rfl⟩ := step_eq_ok_iff.mp h
  obtain ⟨hMeaning, hErrors⟩ := attempt_records hAttempt
  refine ⟨_, rfl, rfl, hMeaning, rfl, rfl, ?_, fun e hError => ?_,
    fun hAll => hPasses.resolve_right (not_not_intro hAll), attempt_balances hAttempt⟩
  · rw [hErrors]
    exact Stage.faults_ascending _ _
  · rw [hErrors] at hError
    exact Stage.index_lt_of_mem_faults hError

/-- A run adds the entries of its operations. -/
theorem runFrom_ledger {operations : List Operation} (h : runFrom c p operations = .ok q) :
    ∃ entries, q.diagnostics = p.diagnostics ++ entries ∧
      Ledger c p.meaning p.rows.length operations entries q.rows.length := by
  induction operations generalizing p with
  | nil =>
      cases h
      exact ⟨[], (List.append_nil _).symm, .nil⟩
  | cons operation rest ih =>
      obtain ⟨middle, hStep, hRest⟩ := runFrom_cons_eq_ok_iff.mp h
      obtain ⟨entry, hEntry, hOutgoing, hMeaning, hAccounts⟩ := step_accounts hStep
      obtain ⟨entries, hEntries, hLedger⟩ := ih hRest
      refine ⟨entry :: entries, ?_, .cons hAccounts ?_⟩
      · rw [hEntries, hEntry, List.append_assoc, List.singleton_append]
      · rw [hOutgoing, ← hMeaning]
        exact hLedger

/-- The diagnostics of a run that succeeds account for every row. A run fails only at an operation that
fails on the rows which those before it have left: at a limit without a proper amount, or where there
are rows and all of them have errors. -/
theorem run_ledger (c : Context) (rows : List Row) (operations : List Operation) :
    (∀ p, run c rows operations = .ok p →
      Ledger c .path rows.length operations p.diagnostics p.rows.length) ∧
    ∀ e, run c rows operations = .error e ↔
      ∃ before operation rest p, operations = before ++ operation :: rest ∧
        run c rows before = .ok p ∧ Refuses c p operation e := by
  refine ⟨fun p hRun => ?_, fun e => runFrom_eq_error_iff⟩
  obtain ⟨entries, hEntries, hLedger⟩ := runFrom_ledger hRun
  rw [hEntries]
  exact hLedger

def zeroKey : Expr := .index (.name "x") (.name "i")

/-- A sorting that leaves out a row, a grouping that is undone, and a limit of zero with a sign. -/
def countedOperations : List Operation :=
  [.sort [⟨zeroKey, .descending⟩], .group ⟨"n", zeroKey⟩, .flatten ⟨"n", .name "n"⟩,
    .limit (.literal (.number (.signedZero true)))]

/-- Of three rows the middle one is left out at first; alone it makes a filter fail. -/
theorem run_ledger_zeros :
    (∃ p, run .bare zeroRows countedOperations = .ok p ∧
      p.diagnostics.map (fun d => (d.incoming, d.outgoing, d.errors.map RowError.index)) =
        [(3, 2, [1]), (2, 1, []), (1, 2, []), (2, 0, [])] ∧
      Ledger .bare .path 3 countedOperations p.diagnostics p.rows.length) ∧
    ∃ e, run .bare (zeroRows.tail.take 1) [.sort [], .filter zeroKey] = .error e ∧
      ∃ before operation rest p, [.sort [], .filter zeroKey] = before ++ operation :: rest ∧
        run .bare (zeroRows.tail.take 1) before = .ok p ∧ Refuses .bare p operation e := by
  obtain ⟨p, hRun, hCounts⟩ : ∃ p, run .bare zeroRows countedOperations = .ok p ∧
      p.diagnostics.map (fun d => (d.incoming, d.outgoing, d.errors.map RowError.index)) =
        [(3, 2, [1]), (2, 1, []), (1, 2, []), (2, 0, [])] := ⟨_, by cbv, by cbv⟩
  obtain ⟨e, hFails⟩ : ∃ e, run .bare (zeroRows.tail.take 1) [.sort [], .filter zeroKey] =
      .error e := ⟨_, by cbv⟩
  exact ⟨⟨p, hRun, hCounts, (run_ledger .bare zeroRows countedOperations).1 p hRun⟩, e, hFails,
    ((run_ledger .bare (zeroRows.tail.take 1) [.sort [], .filter zeroKey]).2 e).mp hFails⟩

end Pipeline
end DocQuery
