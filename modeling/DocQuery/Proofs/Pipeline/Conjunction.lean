import Mathlib
import DocQuery.Proofs.Pipeline.Selection

/-!
Neighbouring filters of a query are read as one filter by both clauses. It evaluates the second clause
for all rows for which the first one has a value, where a filter of its own would only see the rows that
the first one keeps. The same rows are kept, and there may only be more errors: each error of the second
filter is recorded at the place that its row has in the input.
-/

namespace DocQuery

variable {c : Context} {rows : List Row}

namespace Stage

/-- The places in the input of the rows that a clause keeps, in order. -/
def keptPlaces (c : Context) (clause : Expr) (rows : List Row) : List Nat :=
  (rows.zipIdx.filter fun (row, _) => keeps c clause row).map Prod.snd

theorem mem_keptPlaces_iff {clause : Expr} {place : Nat} :
    place ∈ keptPlaces c clause rows ↔
      ∃ row, rows[place]? = some row ∧ keeps c clause row = true := by
  simp [keptPlaces, List.mk_mem_zipIdx_iff_getElem?]

/-- The rows behind a filter are those at the places that it keeps. -/
theorem getElem?_filter_rows {clause : Expr} {index : Nat} {row : Row} :
    (filter c clause rows).rows[index]? = some row ↔
      ∃ place, (keptPlaces c clause rows)[index]? = some place ∧ rows[place]? = some row := by
  have hRows : (filter c clause rows).rows =
      (rows.zipIdx.filter fun (row, _) => keeps c clause row).map Prod.fst := by
    conv => lhs; rw [filter_rows_eq, ← List.zipIdx_map_fst 0 rows, List.filter_map]
    rfl
  have hPlace {kept : Row} {place : Nat}
      (hKept : (rows.zipIdx.filter fun (row, _) => keeps c clause row)[index]? = some (kept, place)) :
      rows[place]? = some kept :=
    List.mk_mem_zipIdx_iff_getElem?.mp (List.mem_filter.mp (List.mem_of_getElem? hKept)).1
  rw [hRows, keptPlaces, List.getElem?_map, List.getElem?_map]
  cases hKept : (rows.zipIdx.filter fun (row, _) => keeps c clause row)[index]? with
  | none => simp
  | some item =>
      obtain ⟨kept, place⟩ := item
      simp [hPlace hKept]

/-- The errors of filtering by both clauses at once, beside those of filtering by the first one and then
by the second one. All of these are there, the later ones at the places that their rows have in the
input; the others come from rows that the first clause leaves out. -/
structure JoinedErrors (c : Context) (a b : Expr) (rows : List Row)
    (first second joined : List RowError) : Prop where
  of_first : ∀ e ∈ first, e ∈ joined
  of_second : ∀ e ∈ second, ∃ place, (keptPlaces c a rows)[e.index]? = some place ∧
    ⟨place, e.error⟩ ∈ joined
  origin : ∀ e ∈ joined, e ∈ first ∨
    (∃ later ∈ second, (keptPlaces c a rows)[later.index]? = some e.index ∧ later.error = e.error) ∨
    ∃ row v, rows[e.index]? = some row ∧ valueOf c a row = .ok v ∧ v.truthy = false ∧
      valueOf c b row = .error e.error

section

variable (hStandard : c.operators = .standard)
include hStandard

/-- A conjunction has a value where both sides have one. -/
theorem valueOf_and (a b : Expr) (row : Row) :
    valueOf c (.binary .and a b) row = (do
      let left ← valueOf c a row
      let right ← valueOf c b row
      return .boolean (left.truthy && right.truthy)) := by
  simp only [valueOf, Expr.eval, Context.apply_and hStandard]
  rfl

/-- A conjunction keeps what both sides keep. -/
theorem keeps_and (a b : Expr) (row : Row) :
    keeps c (.binary .and a b) row = (keeps c b row && keeps c a row) := by
  rw [keeps, valueOf_and hStandard, keeps, keeps]
  cases valueOf c a row with
  | error e => exact (Bool.and_false _).symm
  | ok left =>
      cases valueOf c b row with
      | error e => rfl
      | ok right => exact Bool.and_comm _ _

/-- The first clause that has no value decides about the error. -/
theorem errorOf?_and (a b : Expr) (row : Row) :
    errorOf? (valueOf c (.binary .and a b) row) =
      (errorOf? (valueOf c a row)).or (errorOf? (valueOf c b row)) := by
  rw [valueOf_and hStandard]
  cases valueOf c a row with
  | error e => rfl
  | ok left => cases valueOf c b row <;> rfl

/-- Keeping by a conjunction is keeping by one side after the other. -/
theorem filter_and_rows (a b : Expr) (rows : List Row) :
    (filter c (.binary .and a b) rows).rows = (filter c b (filter c a rows).rows).rows := by
  rw [filter_rows_eq, filter_rows_eq, filter_rows_eq, List.filter_filter]
  exact List.filter_congr fun row _ => keeps_and hStandard a b row

/-- The errors of a conjunction are those of its first side, and those of the second side at the rows that
the first one keeps. -/
theorem errors_filter_and (a b : Expr) (rows : List Row) :
    JoinedErrors c a b rows (filter c a rows).errors (filter c b (filter c a rows).rows).errors
      (filter c (.binary .and a b) rows).errors := by
  have hErrors (clause : Expr) (rows : List Row) : (filter c clause rows).errors =
      faults (fun row => errorOf? (valueOf c clause row)) rows := errors_evaluate _ rows
  simp only [hErrors, errorOf?_and hStandard]
  constructor
  · intro e hError
    obtain ⟨row, hRow, hFault⟩ := mem_faults_iff.mp hError
    exact mem_faults_iff.mpr ⟨row, hRow, by rw [hFault, Option.some_or]⟩
  · intro e hError
    obtain ⟨row, hRow, hFault⟩ := mem_faults_iff.mp hError
    obtain ⟨place, hPlace, hInput⟩ := getElem?_filter_rows.mp hRow
    -- The first clause has kept the row, so it has a value for it.
    have hKept : row ∈ rows.filter (keeps c a) := filter_rows_eq c a rows ▸ List.mem_of_getElem? hRow
    obtain ⟨v, hValue, _⟩ := keeps_eq_true_iff.mp (List.mem_filter.mp hKept).2
    refine ⟨place, hPlace, mem_faults_iff.mpr ⟨row, hInput, ?_⟩⟩
    rw [errorOf?_eq_none_iff.mpr ⟨v, hValue⟩, Option.none_or, hFault]
  · intro e hError
    obtain ⟨row, hRow, hFault⟩ := mem_faults_iff.mp hError
    rcases Option.or_eq_some_iff.mp hFault with hFirst | ⟨hNone, hSecond⟩
    · exact .inl (mem_faults_iff.mpr ⟨row, hRow, hFirst⟩)
    · obtain ⟨v, hValue⟩ := errorOf?_eq_none_iff.mp hNone
      cases hTruthy : v.truthy with
      | false => exact .inr (.inr ⟨row, v, hRow, hValue, hTruthy, errorOf?_eq_some_iff.mp hSecond⟩)
      | true =>
          have hKept := keeps_eq_true_iff.mpr ⟨v, hValue, hTruthy⟩
          obtain ⟨index, hIndex⟩ :=
            List.mem_iff_getElem?.mp (mem_keptPlaces_iff.mpr ⟨row, hRow, hKept⟩)
          exact .inr (.inl ⟨⟨index, e.error⟩, mem_faults_iff.mpr
            ⟨row, getElem?_filter_rows.mpr ⟨e.index, hIndex, hRow⟩, hSecond⟩, hIndex, rfl⟩)

end

end Stage

namespace Pipeline

/-- Filtering by two clauses at once, as neighbouring filters are read, keeps the same rows in the same
order as filtering by one after the other, where both runs succeed; they do when one of them returns a
row. Every error of the two filters is recorded for the same row of the input. -/
theorem run_filter_and (c : Context) (hStandard : c.operators = .standard) (keep : Expr → Operation)
    (hKeep : keep = .filter ∨ keep = .having) (rows : List Row) (a b : Expr) :
    Operation.append [keep a] (keep b) = [keep (.binary .and a b)] ∧
    ((∃ p, run c rows [keep a, keep b] = .ok p ∧ p.rows ≠ []) ↔
      ∃ q, run c rows [keep (.binary .and a b)] = .ok q ∧ q.rows ≠ []) ∧
    ∀ p q, run c rows [keep a, keep b] = .ok p → run c rows [keep (.binary .and a b)] = .ok q →
      p.rows = q.rows ∧
      ∃ first second joined, p.diagnostics = [first, second] ∧ q.diagnostics = [joined] ∧
        Stage.JoinedErrors c a b rows first.errors second.errors joined.errors := by
  have hAttempt (p : Pipeline) (clause : Expr) :
      p.attempt c (keep clause) = .ok (p.meaning, Stage.filter c clause p.rows) := by
    rcases hKeep with rfl | rfl <;> rfl
  have hRows := Stage.filter_and_rows hStandard a b rows
  refine ⟨by rcases hKeep with rfl | rfl <;> rfl, ?_, ?_⟩
  · rw [exists_run_pair_iff (hAttempt _ a) (hAttempt _ b) (Stage.length_filter_rows a rows)
        (Stage.length_filter_rows b _),
      exists_run_single_iff (hAttempt _ _) (Stage.length_filter_rows _ rows), hRows]
    rfl
  · intro p q hApart hJoined
    obtain ⟨_, _, rfl⟩ := (run_pair_eq_ok_iff (hAttempt _ a) (hAttempt _ b)).mp hApart
    obtain ⟨_, rfl⟩ := (run_single_eq_ok_iff (hAttempt _ _)).mp hJoined
    exact ⟨hRows.symm, _, _, _, rfl, rfl, Stage.errors_filter_and hStandard a b rows⟩

/-- Of the rows that the first flag keeps, the second one lacks the other flag, which is recorded at its
place in the input; so is that of a row that the first flag leaves out. -/
theorem run_filter_and_flags :
    Context.bare.operators = .standard ∧ (Operation.filter = .filter ∨ Operation.filter = .having) ∧
    ∃ p q, run .bare twoFlagRows [.filter firstFlag, .filter otherFlag] = .ok p ∧
      run .bare twoFlagRows [.filter (.binary .and firstFlag otherFlag)] = .ok q ∧
      p.diagnostics.map (fun d => d.errors.map RowError.index) = [[1], [1]] ∧
      q.diagnostics.map (fun d => d.errors.map RowError.index) = [[1, 2, 3]] ∧
      p.rows.map Row.id = [.string "a"] ∧ p.rows = q.rows ∧
      ∃ first second joined, p.diagnostics = [first, second] ∧ q.diagnostics = [joined] ∧
        Stage.JoinedErrors .bare firstFlag otherFlag twoFlagRows first.errors second.errors
          joined.errors := by
  obtain ⟨p, hApart, hPlaces, hIds⟩ : ∃ p,
      run .bare twoFlagRows [.filter firstFlag, .filter otherFlag] = .ok p ∧
        p.diagnostics.map (fun d => d.errors.map RowError.index) = [[1], [1]] ∧
        p.rows.map Row.id = [.string "a"] := ⟨_, by cbv, by cbv, by cbv⟩
  obtain ⟨q, hJoined, hJoinedPlaces⟩ : ∃ q,
      run .bare twoFlagRows [.filter (.binary .and firstFlag otherFlag)] = .ok q ∧
        q.diagnostics.map (fun d => d.errors.map RowError.index) = [[1, 2, 3]] :=
    ⟨_, by cbv, by cbv⟩
  obtain ⟨_, _, hSame⟩ := run_filter_and .bare rfl .filter (.inl rfl) twoFlagRows firstFlag otherFlag
  exact ⟨rfl, .inl rfl, p, q, hApart, hJoined, hPlaces, hJoinedPlaces, hIds,
    hSame p q hApart hJoined⟩

end Pipeline
end DocQuery
