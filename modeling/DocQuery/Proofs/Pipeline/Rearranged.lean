import Mathlib
import DocQuery.Proofs.Pipeline.Faults
import DocQuery.Proofs.Pipeline.Selection

/-!
One pipeline on the same rows in two orders. Filters, sorting and flattening evaluate each row by itself,
and whether a stage fails depends on counts alone. So the two runs go through the same rows in different
orders, and they leave out the same rows for the same reasons.
-/

namespace DocQuery

variable {c : Context}

/-- Filters, sorting and flattening, which neither count the rows nor join them. -/
def Operation.isRowwise : Operation → Bool
  | filter _ | having _ | sort _ | flatten _ => true
  | limit _ | group _ => false

/-- The rows in front of a stage and behind it, and its errors, by number. -/
def Diagnostics.counts (d : Diagnostics) : Nat × Nat × Nat :=
  (d.incoming, d.outgoing, d.errors.length)

/-- Two records of one operation with the same counts, and the same errors but for the places of their
rows. -/
structure Diagnostics.Alike (d e : Diagnostics) : Prop where
  operation : d.operation = e.operation
  counts : d.counts = e.counts
  causes : (d.errors.map RowError.error).Perm (e.errors.map RowError.error)

/-- Diagnostics are alike either way. -/
theorem Diagnostics.Alike.symm {d e : Diagnostics} (h : Alike d e) : Alike e d :=
  ⟨h.operation.symm, h.counts.symm, h.causes.symm⟩

namespace Stage

variable {rows others : List Row}

/-- Errors come in the order of the rows that fail. -/
theorem map_error_faults (fault? : Row → Option EvalError) (rows : List Row) :
    (faults fault? rows).map RowError.error = rows.filterMap fault? := by
  conv => rhs; rw [← List.zipIdx_map_fst 0 rows, List.filterMap_map]
  rw [faults, List.map_filterMap]
  refine congrArg (fun f => rows.zipIdx.filterMap f) (funext ?_)
  rintro ⟨row, index⟩
  dsimp only [Function.comp_apply]
  cases fault? row <;> rfl

/-- Rows in another order have the same values in another order. -/
theorem evaluate_rows_perm {α : Type} (f : Row → Outcome α) (hRows : rows.Perm others) :
    (evaluate f rows).rows.Perm (evaluate f others).rows :=
  hRows.filterMap _

theorem filter_rows_perm (c : Context) (clause : Expr) (hRows : rows.Perm others) :
    (filter c clause rows).rows.Perm (filter c clause others).rows :=
  ((evaluate_rows_perm _ hRows).filter _).map Prod.snd

/-- Rows in another order are sorted into the same rows; only those with equal keys may stand in another
order. -/
theorem sort_rows_perm_of_perm (c : Context) (fields : List SortField)
    (hRows : rows.Perm others) :
    (sort c fields rows).rows.Perm (sort c fields others).rows := by
  have hKept := evaluate_rows_perm (keysOf c fields) hRows
  exact (((List.mergeSort_perm _ _).trans hKept).trans (List.mergeSort_perm _ _).symm).map Prod.snd

theorem flatten_rows_perm (c : Context) (target : NamedExpr) (hRows : rows.Perm others) :
    (flatten c target rows).rows.Perm (flatten c target others).rows :=
  (evaluate_rows_perm _ hRows).flatMap_right _

end Stage

namespace Pipeline

variable {p q p' : Pipeline} {operation : Operation} {operations : List Operation}

/-- Two runs at the same rows in different orders, none of them groups, after records that are alike. -/
structure Rearranged (p q : Pipeline) : Prop where
  rows : p.rows.Perm q.rows
  first : p.meaning = .path
  other : q.meaning = .path
  diagnostics : List.Forall₂ Diagnostics.Alike p.diagnostics q.diagnostics

theorem Rearranged.symm (h : Rearranged p q) : Rearranged q p where
  rows := h.rows.symm
  first := h.other
  other := h.first
  diagnostics := h.diagnostics.flip.imp fun _ _ hAlike => hAlike.symm

/-- Without groupings a flattening makes rows of elements. -/
theorem flatten_of_path (target : NamedExpr) (hPath : p.meaning = .path) :
    p.flatten c target = (.path, Stage.flatten c target p.rows) := by
  rw [flatten, hPath]

/-- An operation on single rows is attempted in both runs, and leads to the same rows. -/
theorem attempt_rearranged (hRowwise : operation.isRowwise = true) (h : Rearranged p q) :
    ∃ s t, p.attempt c operation = .ok (.path, s) ∧ q.attempt c operation = .ok (.path, t) ∧
      s.rows.Perm t.rows := by
  cases operation with
  | filter clause | having clause =>
      refine ⟨_, _, ?_, ?_, Stage.filter_rows_perm c clause h.rows⟩
      · rw [attempt, h.first]
      · rw [attempt, h.other]
  | sort fields =>
      refine ⟨_, _, ?_, ?_, Stage.sort_rows_perm_of_perm c fields h.rows⟩
      · rw [attempt, h.first]
      · rw [attempt, h.other]
  | flatten target =>
      refine ⟨_, _, ?_, ?_, Stage.flatten_rows_perm c target h.rows⟩
      · rw [attempt, flatten_of_path target h.first]
      · rw [attempt, flatten_of_path target h.other]
  | limit amount | group key => cases hRowwise

/-- A rowwise step that succeeds also succeeds on rearranged rows, and leaves them rearranged. -/
theorem step_rearranged (hRowwise : operation.isRowwise = true) (h : Rearranged p q)
    (hStep : p.step c operation = .ok p') :
    ∃ q', q.step c operation = .ok q' ∧ Rearranged p' q' := by
  obtain ⟨s, t, hFirst, hOther, hRows⟩ := attempt_rearranged hRowwise h
  obtain ⟨hPasses, rfl⟩ := (step_eq_ok_iff_of_attempt hFirst).mp hStep
  have hCauses : (s.errors.map RowError.error).Perm (t.errors.map RowError.error) := by
    rw [(attempt_records hFirst).2, (attempt_records hOther).2, h.first, h.other,
      Stage.map_error_faults, Stage.map_error_faults]
    exact h.rows.filterMap _
  have hErrors : s.errors.length = t.errors.length := by simpa using hCauses.length_eq
  have hIncoming := h.rows.length_eq
  refine ⟨_, (step_eq_ok_iff_of_attempt hOther).mpr ⟨?_, rfl⟩, hRows, rfl, rfl,
    List.rel_append h.diagnostics (.cons ⟨rfl, ?_, hCauses⟩ .nil)⟩
  · rw [Passes, ← hIncoming, ← hErrors]
    exact hPasses
  · simp only [Diagnostics.counts, hIncoming, hRows.length_eq, hErrors]

/-- So do rowwise steps one after the other, by induction on them. -/
theorem runFrom_rearranged (hRowwise : ∀ op ∈ operations, op.isRowwise = true) (h : Rearranged p q)
    (hRun : runFrom c p operations = .ok p') :
    ∃ q', runFrom c q operations = .ok q' ∧ Rearranged p' q' := by
  induction operations generalizing p q with
  | nil =>
      cases hRun
      exact ⟨q, rfl, h⟩
  | cons operation rest ih =>
      obtain ⟨hOperation, hRest⟩ := List.forall_mem_cons.mp hRowwise
      obtain ⟨middle, hStep, hRun⟩ := runFrom_cons_eq_ok_iff.mp hRun
      obtain ⟨other, hOther, hBetween⟩ := step_rearranged hOperation h hStep
      obtain ⟨q', hOtherRun, hEnd⟩ := ih hRest hBetween hRun
      exact ⟨q', runFrom_cons_eq_ok_iff.mpr ⟨other, hOther, hOtherRun⟩, hEnd⟩

/-- Without limits and groupings the order of the rows decides neither about success nor about what is
returned and recorded, but only about the order of the rows returned and the places of errors. -/
theorem run_rearranged (c : Context) (rows others : List Row) (hRows : rows.Perm others)
    (operations : List Operation) (hRowwise : ∀ op ∈ operations, op.isRowwise = true) :
    ((∃ p, run c rows operations = .ok p) ↔ ∃ q, run c others operations = .ok q) ∧
    ∀ p q, run c rows operations = .ok p → run c others operations = .ok q →
      p.rows.Perm q.rows ∧ List.Forall₂ Diagnostics.Alike p.diagnostics q.diagnostics := by
  have hStart : Rearranged { rows } { rows := others } := ⟨hRows, rfl, rfl, .nil⟩
  refine ⟨⟨?_, ?_⟩, ?_⟩
  · rintro ⟨p, hRun⟩
    obtain ⟨q, hOther, _⟩ := runFrom_rearranged hRowwise hStart hRun
    exact ⟨q, hOther⟩
  · rintro ⟨q, hOther⟩
    obtain ⟨p, hRun, _⟩ := runFrom_rearranged hRowwise hStart.symm hOther
    exact ⟨p, hRun⟩
  · intro p q hRun hOther
    obtain ⟨q', hSame, hEnd⟩ := runFrom_rearranged hRowwise hStart hRun
    cases hOther.symm.trans hSame
    exact ⟨hEnd.rows, hEnd.diagnostics⟩

/-- A filter and a sorting that leave out rows, a flattening and another filter. -/
def rowwiseOperations : List Operation :=
  [.filter firstFlag, .sort [⟨otherFlag, .ascending⟩],
    .flatten ⟨"z", .list [.name "y", .name "none"]⟩, .having (.name "z")]

/-- A run over rows with one that fails, and over the same rows reversed. -/
theorem run_rearranged_flags :
    twoFlagRows.Perm twoFlagRows.reverse ∧ (∀ op ∈ rowwiseOperations, op.isRowwise = true) ∧
    ∃ p q, run .bare twoFlagRows rowwiseOperations = .ok p ∧
      run .bare twoFlagRows.reverse rowwiseOperations = .ok q ∧
      p.diagnostics.map Diagnostics.counts = [(6, 3, 1), (3, 2, 1), (2, 4, 0), (4, 2, 0)] ∧
      p.diagnostics.map (fun d => d.errors.map RowError.index) = [[1], [1], [], []] ∧
      q.diagnostics.map (fun d => d.errors.map RowError.index) = [[4], [1], [], []] ∧
      p.rows.Perm q.rows ∧ List.Forall₂ Diagnostics.Alike p.diagnostics q.diagnostics := by
  have hRows : twoFlagRows.Perm twoFlagRows.reverse := (List.reverse_perm twoFlagRows).symm
  have hRowwise : ∀ op ∈ rowwiseOperations, op.isRowwise = true := List.all_eq_true.mp rfl
  obtain ⟨p, hRun, hCounts, hPlaces⟩ : ∃ p, run .bare twoFlagRows rowwiseOperations = .ok p ∧
      p.diagnostics.map Diagnostics.counts = [(6, 3, 1), (3, 2, 1), (2, 4, 0), (4, 2, 0)] ∧
      p.diagnostics.map (fun d => d.errors.map RowError.index) = [[1], [1], [], []] :=
    ⟨_, by cbv, by cbv, by cbv⟩
  obtain ⟨q, hOther, hOtherPlaces⟩ : ∃ q,
      run .bare twoFlagRows.reverse rowwiseOperations = .ok q ∧
      q.diagnostics.map (fun d => d.errors.map RowError.index) = [[4], [1], [], []] :=
    ⟨_, by cbv, by cbv⟩
  exact ⟨hRows, hRowwise, p, q, hRun, hOther, hCounts, hPlaces, hOtherPlaces,
    (run_rearranged .bare twoFlagRows twoFlagRows.reverse hRows rowwiseOperations hRowwise).2
      p q hRun hOther⟩

end Pipeline
end DocQuery
