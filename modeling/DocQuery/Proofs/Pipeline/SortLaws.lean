import Mathlib
import DocQuery.Proofs.Pipeline.Selection

/-!
Sorting beside other stages. Sorting twice is sorting once, by the fields of the later sorting first,
and a filter may stand in front of a sorting or behind it. The stages leave out different rows in the
two runs, but in the end the same ones.
-/

namespace DocQuery

variable {c : Context} {rows : List Row}

namespace Stage

section

variable (hStandard : c.operators = .standard)
include hStandard

/-- Sorting by minor fields and then by major ones is sorting by both, the major ones first. -/
theorem sort_sort_rows (major minor : List SortField) (rows : List Row) :
    (sort c major (sort c minor rows).rows).rows = (sort c (major ++ minor) rows).rows := by
  have hMajor := orderRows_transCmp hStandard major
  have hMinor := orderRows_transCmp hStandard minor
  have hKeys : (fun row => hasKeys c major row && hasKeys c minor row) = hasKeys c (major ++ minor) :=
    funext fun row => (hasKeys_append major minor row).symm
  calc (sort c major (sort c minor rows).rows).rows
      = Sequence.sortBy (orderRows c major)
          ((Sequence.sortBy (orderRows c minor) (rows.filter (hasKeys c minor))).filter
            (hasKeys c major)) := by
        rw [sort_rows_eq, sort_rows_eq]
    _ = Sequence.sortBy (orderRows c major)
          (Sequence.sortBy (orderRows c minor)
            ((rows.filter (hasKeys c minor)).filter (hasKeys c major))) := by
        rw [Sequence.filter_sortBy]
    _ = Sequence.sortBy (orderRows c (major ++ minor)) (rows.filter (hasKeys c (major ++ minor))) := by
        rw [Sequence.sortBy_sortBy, List.filter_filter, hKeys, orderRows_append]
    _ = (sort c (major ++ minor) rows).rows := (sort_rows_eq c _ rows).symm

/-- What is not kept can be left out before the sort or behind it. -/
theorem filter_sort_rows (clause : Expr) (fields : List SortField) (rows : List Row) :
    (filter c clause (sort c fields rows).rows).rows =
      (sort c fields (filter c clause rows).rows).rows := by
  have hOrder := orderRows_transCmp hStandard fields
  calc (filter c clause (sort c fields rows).rows).rows
      = (Sequence.sortBy (orderRows c fields) (rows.filter (hasKeys c fields))).filter
          (keeps c clause) := by
        rw [filter_rows_eq, sort_rows_eq]
    _ = Sequence.sortBy (orderRows c fields)
          ((rows.filter (keeps c clause)).filter (hasKeys c fields)) := by
        rw [Sequence.filter_sortBy, List.filter_comm]
    _ = (sort c fields (filter c clause rows).rows).rows := by
        rw [filter_rows_eq, sort_rows_eq]

end

theorem sort_nil_rows (c : Context) (fields : List SortField) : (sort c fields []).rows = [] := by
  rw [sort_rows_eq]
  exact List.mergeSort_nil

end Stage

namespace Pipeline

/-- A sorting is accepted when it returns a row or there is none. -/
theorem passes_sort_iff_rows_ne_nil {fields : List SortField} :
    Passes rows.length (Stage.sort c fields rows) ↔
      rows = [] ∨ (Stage.sort c fields rows).rows ≠ [] := by
  have hCount := Stage.length_sort_rows (c := c) fields rows
  rw [Passes, List.length_eq_zero_iff, ← List.length_pos_iff]
  exact or_congr_right ⟨fun h => by omega, fun h => by omega⟩

/-- Both sorts pass when the sort by all fields passes. -/
theorem passes_sort_append_iff (hStandard : c.operators = .standard) {major minor : List SortField} :
    Passes rows.length (Stage.sort c (major ++ minor) rows) ↔
      Passes rows.length (Stage.sort c minor rows) ∧
        Passes (Stage.sort c minor rows).rows.length
          (Stage.sort c major (Stage.sort c minor rows).rows) := by
  simp only [passes_sort_iff_rows_ne_nil, Stage.sort_sort_rows hStandard]
  constructor
  · rintro (rfl | hSorted)
    · rw [Stage.sort_nil_rows]
      exact ⟨.inl rfl, .inl rfl⟩
    · refine ⟨.inr fun hMinor => hSorted ?_, .inr hSorted⟩
      rw [← Stage.sort_sort_rows hStandard, hMinor, Stage.sort_nil_rows]
  · rintro ⟨hRows | hMinor, hMajor⟩
    · exact .inl hRows
    · exact .inr (hMajor.resolve_left hMinor)

/-- Sorting by minor fields and then by major ones succeeds just when sorting by all of them does, the
major ones first, and gives the same rows in the same order. -/
theorem run_sort_sort (c : Context) (hStandard : c.operators = .standard) (rows : List Row)
    (major minor : List SortField) :
    ((∃ p, run c rows [.sort minor, .sort major] = .ok p) ↔
      ∃ q, run c rows [.sort (major ++ minor)] = .ok q) ∧
    ∀ p q, run c rows [.sort minor, .sort major] = .ok p →
      run c rows [.sort (major ++ minor)] = .ok q → p.rows = q.rows := by
  refine ⟨⟨?_, ?_⟩, ?_⟩
  · rintro ⟨p, hTwice⟩
    obtain ⟨hMinor, hMajor, _⟩ := (run_pair_eq_ok_iff rfl rfl).mp hTwice
    exact ⟨_, (run_single_eq_ok_iff rfl).mpr
      ⟨(passes_sort_append_iff hStandard).mpr ⟨hMinor, hMajor⟩, rfl⟩⟩
  · rintro ⟨q, hOnce⟩
    obtain ⟨hMinor, hMajor⟩ :=
      (passes_sort_append_iff hStandard).mp ((run_single_eq_ok_iff rfl).mp hOnce).1
    exact ⟨_, (run_pair_eq_ok_iff rfl rfl).mpr ⟨hMinor, hMajor, rfl⟩⟩
  · intro p q hTwice hOnce
    obtain ⟨_, _, rfl⟩ := (run_pair_eq_ok_iff rfl rfl).mp hTwice
    obtain ⟨_, rfl⟩ := (run_single_eq_ok_iff rfl).mp hOnce
    exact Stage.sort_sort_rows hStandard major minor rows

/-- Rows are left out for the other flag by the first sorting and for the first flag by the second one. -/
theorem run_sort_sort_flags :
    Context.bare.operators = .standard ∧ ∃ p q,
      run .bare twoFlagRows [.sort [⟨otherFlag, .ascending⟩], .sort [⟨firstFlag, .descending⟩]] =
        .ok p ∧
      run .bare twoFlagRows [.sort [⟨firstFlag, .descending⟩, ⟨otherFlag, .ascending⟩]] = .ok q ∧
      q.rows.map Row.id = [.string "f", .string "a", .string "e"] ∧ p.rows = q.rows := by
  obtain ⟨hSucceeds, hSame⟩ := run_sort_sort .bare rfl twoFlagRows [⟨firstFlag, .descending⟩]
    [⟨otherFlag, .ascending⟩]
  obtain ⟨q, hOnce, hIds⟩ : ∃ q, run .bare twoFlagRows
      [.sort [⟨firstFlag, .descending⟩, ⟨otherFlag, .ascending⟩]] = .ok q ∧
        q.rows.map Row.id = [.string "f", .string "a", .string "e"] := ⟨_, by cbv, by cbv⟩
  obtain ⟨p, hTwice⟩ := hSucceeds.mpr ⟨q, hOnce⟩
  exact ⟨rfl, p, q, hTwice, hOnce, hIds, hSame p q hTwice hOnce⟩

/-- Filtering before or after sorting gives the same rows in the same order, where both runs succeed.
They do when one of them returns a row, so that one of them alone can fail only where the other returns
none. -/
theorem run_filter_sort (c : Context) (hStandard : c.operators = .standard) (rows : List Row)
    (clause : Expr) (fields : List SortField) :
    ((∃ p, run c rows [.filter clause, .sort fields] = .ok p ∧ p.rows ≠ []) ↔
      ∃ q, run c rows [.sort fields, .filter clause] = .ok q ∧ q.rows ≠ []) ∧
    ∀ p q, run c rows [.filter clause, .sort fields] = .ok p →
      run c rows [.sort fields, .filter clause] = .ok q → p.rows = q.rows := by
  have hRows := Stage.filter_sort_rows hStandard clause fields rows
  constructor
  · rw [exists_run_pair_iff rfl rfl (Stage.length_filter_rows clause rows)
        (Stage.length_sort_rows fields _).le,
      exists_run_pair_iff rfl rfl (Stage.length_sort_rows fields rows).le
        (Stage.length_filter_rows clause _), hRows]
  · intro p q hFiltered hSorted
    obtain ⟨_, _, rfl⟩ := (run_pair_eq_ok_iff rfl rfl).mp hFiltered
    obtain ⟨_, _, rfl⟩ := (run_pair_eq_ok_iff rfl rfl).mp hSorted
    exact hRows.symm

/-- The row without a first flag is left out by the filter, in front of the sorting or behind it. -/
theorem run_filter_sort_flags :
    Context.bare.operators = .standard ∧ ∃ p q,
      run .bare twoFlagRows [.filter firstFlag, .sort [⟨otherFlag, .ascending⟩]] = .ok p ∧
      run .bare twoFlagRows [.sort [⟨otherFlag, .ascending⟩], .filter firstFlag] = .ok q ∧
      p.rows.map Row.id = [.string "f", .string "a"] ∧ p.rows = q.rows := by
  obtain ⟨hSucceeds, hSame⟩ := run_filter_sort .bare rfl twoFlagRows firstFlag
    [⟨otherFlag, .ascending⟩]
  obtain ⟨p, hFiltered, hIds⟩ : ∃ p, run .bare twoFlagRows
      [.filter firstFlag, .sort [⟨otherFlag, .ascending⟩]] = .ok p ∧
        p.rows.map Row.id = [.string "f", .string "a"] := ⟨_, by cbv, by cbv⟩
  obtain ⟨q, hSorted, _⟩ := hSucceeds.mp ⟨p, hFiltered, fun hNone => by simp [hNone] at hIds⟩
  exact ⟨rfl, p, q, hFiltered, hSorted, hIds, hSame p q hFiltered hSorted⟩

end Pipeline
end DocQuery
