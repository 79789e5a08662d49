import DocQuery.Pipeline.Stage
import DocQuery.Proofs.Eval.Comparison
import DocQuery.Proofs.Sequence

/-!
What the stages let through. A stage evaluates before it does anything else, so every fact about its
rows starts from the rows that could be evaluated.
-/

namespace DocQuery.Stage

variable {α β : Type} {c : Context} {rows : List Row}

/-- A row has a value when it has one by itself. -/
theorem mem_evaluate_rows {f : Row → Outcome α} {v : α} {row : Row} :
    (v, row) ∈ (evaluate f rows).rows ↔ row ∈ rows ∧ f row = .ok v := by
  simp only [evaluate, List.mem_filterMap]
  constructor
  · rintro ⟨other, hMem, hSome⟩
    split at hSome
    · next w hOk =>
        cases hSome
        exact ⟨hMem, hOk⟩
    · cases hSome
  · rintro ⟨hMem, hOk⟩
    exact ⟨row, hMem, by rw [hOk]⟩

/-- What is kept of the evaluated rows by their values is kept of the rows themselves. -/
theorem filter_evaluate_rows (f : Row → Outcome α) (keep : α → Bool) (rows : List Row) :
    ((evaluate f rows).rows.filter fun item => keep item.1).map Prod.snd =
      rows.filter fun row => (f row).toOption.any keep := by
  induction rows with
  | nil => rfl
  | cons row rest ih =>
      simp only [evaluate, List.filterMap_cons] at ih ⊢
      rw [List.filter_cons]
      cases f row with
      | error e => exact ih
      | ok v => cases hKeep : keep v <;> simp [Except.toOption, hKeep, ih]

/-- Going on with what was evaluated changes neither which rows are left out nor why. -/
theorem evaluate_map (f : Row → Outcome α) (g : α → β) :
    evaluate (fun row => g <$> f row) rows =
      (evaluate f rows).andThen fun kept => kept.map fun (v, row) => (g v, row) := by
  simp only [evaluate, andThen, List.map_filterMap, Stage.mk.injEq]
  constructor
  · congr 1
    funext row
    cases f row <;> rfl
  · congr 1
    funext (row, index)
    cases f row <;> rfl

theorem mem_filter_rows {clause : Expr} {row : Row} (h : row ∈ (filter c clause rows).rows) :
    row ∈ rows := by
  simp only [filter, andThen, List.mem_map, List.mem_filter] at h
  obtain ⟨⟨v, kept⟩, ⟨hKept, _⟩, rfl⟩ := h
  exact (mem_evaluate_rows.mp hKept).1

theorem mem_sort_rows {fields : List SortField} {row : Row}
    (h : row ∈ (sort c fields rows).rows) : row ∈ rows := by
  simp only [sort, andThen, Sequence.sortBy, List.mem_map, List.mem_mergeSort] at h
  obtain ⟨⟨keys, kept⟩, hKept, rfl⟩ := h
  exact (mem_evaluate_rows.mp hKept).1

/-- A group has members, and all of them come from the input. -/
theorem mem_group_rows {key : NamedExpr} {row : Row} (h : row ∈ (group c key rows).rows) :
    row.members ≠ [] ∧ ∀ member ∈ row.members, member ∈ rows := by
  simp only [group, andThen, List.mem_map] at h
  obtain ⟨g, hGroup, rfl⟩ := h
  refine ⟨Sequence.groupBy_members_ne_nil _ g hGroup, fun member hMember => ?_⟩
  have hAll : member ∈ (Sequence.groupBy c.compare
      (evaluate (valueOf c key.expr) rows).rows).flatMap Group.members :=
    List.mem_flatMap.mpr ⟨g, hGroup, hMember⟩
  simp only [Sequence.groupBy_members, Sequence.sortBy, List.mem_map, List.mem_mergeSort] at hAll
  obtain ⟨⟨v, kept⟩, hKept, rfl⟩ := hAll
  exact (mem_evaluate_rows.mp hKept).1

/-- A copy of a row differs from it in one field; members are copied as they are. -/
theorem mem_spreadRow {name : String} {v : Value} {row copy : Row} (h : copy ∈ spreadRow name v row) :
    ∃ item, copy = row.set name item := by
  unfold spreadRow at h
  split at h
  · obtain ⟨item, _, rfl⟩ := List.mem_map.mp h
    exact ⟨item, rfl⟩
  · exact ⟨v, List.mem_singleton.mp h⟩

/-- A row behind a flattening is one before it with an element set. -/
theorem mem_flatten_rows {target : NamedExpr} {row : Row}
    (h : row ∈ (flatten c target rows).rows) :
    ∃ source ∈ rows, ∃ v, row = source.set target.name v := by
  simp only [flatten, andThen, List.mem_flatMap] at h
  obtain ⟨⟨v, source⟩, hKept, hSpread⟩ := h
  exact ⟨source, (mem_evaluate_rows.mp hKept).1, mem_spreadRow hSpread⟩

/-- A row behind an undone grouping is a member of a group with its key set. -/
theorem mem_ungroup {name : String} {row : Row} (h : row ∈ ungroup name rows) :
    ∃ g ∈ rows, ∃ member ∈ g.members, row = member.set name g.id := by
  simp only [ungroup, List.mem_flatMap, List.mem_map] at h
  obtain ⟨g, hGroup, member, hMember, rfl⟩ := h
  exact ⟨g, hGroup, member, hMember, rfl⟩

end DocQuery.Stage
