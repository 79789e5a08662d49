import Mathlib
import DocQuery.Proofs.Keyed
import DocQuery.Proofs.Pipeline.Run
import DocQuery.Proofs.Pipeline.SortOrder
import DocQuery.Proofs.Pipeline.Stage

/-!
Grouping by an expression and flattening by the same name is sorting by the expression. Both stages
leave out the same rows and both sorts are stable, so the rows agree one by one; only the key is that
of the first row of each group.
-/

namespace DocQuery

variable {c : Context}

namespace Stage

theorem keysOf_single (e : Expr) (direction : SortDirection) (row : Row) :
    keysOf c [⟨e, direction⟩] row = (fun v => [v]) <$> valueOf c e row := by
  simp only [keysOf, valueOf, List.map_cons, List.map_nil, Expr.evalItems]
  cases e.eval c (some row.fields) <;> rfl

/-- Sorting by one field compares its values directly. -/
theorem sort_single (hStandard : c.operators = .standard) (e : Expr) (rows : List Row) :
    sort c [⟨e, .ascending⟩] rows =
      (evaluate (valueOf c e) rows).andThen fun kept =>
        (Sequence.sortBy (fun a b => c.compare a.1 b.1) kept).map Prod.snd := by
  have hKeys : keysOf c [⟨e, .ascending⟩] = fun row => (fun v => [v]) <$> valueOf c e row := by
    funext row
    exact keysOf_single e .ascending row
  have hOrder (a b : Value × Row) :
      (c.compare a.1 b.1 != .gt) = (orderKeys c [⟨e, .ascending⟩] [a.1] [b.1] != .gt) := by
    simp only [orderKeys, order_eq_compare hStandard, directed]
    cases c.compare a.1 b.1 <;> rfl
  rw [sort, hKeys, evaluate_map]
  simp only [andThen, Sequence.sortBy, Stage.mk.injEq, and_true]
  rw [← List.map_mergeSort (r := fun a b : Value × Row => c.compare a.1 b.1 != .gt)
    (fun a _ b _ => hOrder a b), List.map_map]
  rfl

/-- Flattening a grouping gives the members in the order of the groups, each with the key of its
group under the name of the grouping. -/
theorem ungroup_group (key : NamedExpr) (rows : List Row) :
    ungroup key.name (group c key rows).rows =
      ((Sequence.groupBy c.compare (evaluate (valueOf c key.expr) rows).rows).flatMap
        Group.entries).map fun (k, row) => row.set key.name k := by
  simp only [ungroup, group, andThen, List.flatMap_map, List.map_flatMap, Group.entries,
    List.map_map]
  rfl

end Stage

/-- A row whose grouping was undone, beside the row itself: all is as it was, but for the field of
the grouping, which holds a value equal to the key of the row. -/
structure Row.Regrouped (c : Context) (key : NamedExpr) (regrouped row : Row) : Prop where
  id : regrouped.id = row.id
  members : regrouped.members = row.members
  others : ∀ other, other ≠ key.name →
    Keyed.get? regrouped.fields other = Keyed.get? row.fields other
  keyed : ∃ k v, Keyed.get? regrouped.fields key.name = some k ∧
    key.expr.eval c (some row.fields) = .ok v ∧ c.compare k v = .eq

/-- The key that a group has takes the place of an equal value of its rows. -/
theorem Row.regrouped_set {key : NamedExpr} {row : Row} {k v : Value}
    (hValue : Stage.valueOf c key.expr row = .ok v) (hEqual : c.compare k v = .eq) :
    Row.Regrouped c key (row.set key.name k) row where
  id := rfl
  members := rfl
  others _ hOther := Keyed.get?_set_of_ne row.fields k hOther
  keyed := ⟨k, v, Keyed.get?_set_self row.fields key.name k, hValue, hEqual⟩

/-- Grouping and flattening again is sorting by the key, but for the key that the rows then hold. -/
theorem Stage.ungroup_group_regrouped (hStandard : c.operators = .standard) (key : NamedExpr)
    (rows : List Row) :
    List.Forall₂ (Row.Regrouped c key) (ungroup key.name (group c key rows).rows)
      (sort c [⟨key.expr, .ascending⟩] rows).rows := by
  rw [ungroup_group, sort_single hStandard, andThen, List.forall₂_map_left_iff,
    List.forall₂_map_right_iff]
  have hEvaluated : ∀ item ∈ Sequence.sortBy (fun a b => c.compare a.1 b.1)
      (evaluate (valueOf c key.expr) rows).rows, valueOf c key.expr item.2 = .ok item.1 := by
    rintro ⟨v, row⟩ hItem
    exact (mem_evaluate_rows.mp (List.mem_mergeSort.mp hItem)).2
  have hPlaces : List.Forall₂ (Sequence.Relabelled c.compare) _ _ :=
    Sequence.groupBy_relabelled (evaluate (valueOf c key.expr) rows).rows
  have hBoth := ((List.forall₂_and_left _ _).mpr ⟨hEvaluated, hPlaces.flip⟩).flip
  refine hBoth.imp ?_
  rintro ⟨k, row⟩ ⟨v, source⟩ ⟨hValue, hSame, hEqual⟩
  cases hSame
  exact Row.regrouped_set hValue hEqual

namespace Pipeline

theorem passes_of_no_errors (incoming : Nat) (rows : List Row) : Passes incoming ⟨rows, []⟩ := by
  cases incoming with
  | zero => exact Or.inl rfl
  | succ n => exact Or.inr nofun

/-- A sort alone succeeds when its stage passes, with the rows that stage leaves. -/
theorem run_sort_eq_ok_iff {rows : List Row} {fields : List SortField} {q : Pipeline} :
    run c rows [.sort fields] = .ok q ↔
      Passes rows.length (Stage.sort c fields rows) ∧
        q = advance { rows } "sort" .path (Stage.sort c fields rows) :=
  run_single_eq_ok_iff rfl

/-- Only the grouping can fail: behind it, undoing it leaves out no row. -/
theorem run_group_flatten_eq_ok_iff {rows : List Row} {name : String} {e target : Expr}
    {p : Pipeline} :
    run c rows [.group ⟨name, e⟩, .flatten ⟨name, target⟩] = .ok p ↔
      Passes rows.length (Stage.group c ⟨name, e⟩ rows) ∧
        p = advance (advance { rows } "group" (.group name .path) (Stage.group c ⟨name, e⟩ rows))
          "flatten" .path ⟨Stage.ungroup name (Stage.group c ⟨name, e⟩ rows).rows, []⟩ := by
  have hUndo : (advance { rows } "group" (.group name .path)
      (Stage.group c ⟨name, e⟩ rows)).attempt c (.flatten ⟨name, target⟩) =
        .ok (.path, ⟨Stage.ungroup name (Stage.group c ⟨name, e⟩ rows).rows, []⟩) := by
    simp [attempt, flatten, advance]
  rw [run_pair_eq_ok_iff rfl hUndo]
  exact and_congr_right fun _ => and_iff_right (passes_of_no_errors _ _)

/-- Grouping and undoing it succeeds just when sorting does, and gives the same rows in the same
order, with an equal key under the name of the grouping. -/
theorem run_group_flatten_regrouped_sort (c : Context) (hStandard : c.operators = .standard)
    (rows : List Row) (name : String) (e target : Expr) :
    ((∃ p, run c rows [.group ⟨name, e⟩, .flatten ⟨name, target⟩] = .ok p) ↔
      ∃ q, run c rows [.sort [⟨e, .ascending⟩]] = .ok q) ∧
    ∀ p q, run c rows [.group ⟨name, e⟩, .flatten ⟨name, target⟩] = .ok p →
      run c rows [.sort [⟨e, .ascending⟩]] = .ok q →
      p.meaning = .path ∧ q.meaning = .path ∧
        List.Forall₂ (Row.Regrouped c ⟨name, e⟩) p.rows q.rows := by
  have hErrors : (Stage.group c ⟨name, e⟩ rows).errors =
      (Stage.sort c [⟨e, .ascending⟩] rows).errors := by
    rw [Stage.sort_single hStandard]
    rfl
  simp only [run_group_flatten_eq_ok_iff, run_sort_eq_ok_iff]
  constructor
  · simp only [exists_and_left, exists_eq, and_true, Passes, hErrors]
  · rintro p q ⟨_, rfl⟩ ⟨_, rfl⟩
    exact ⟨rfl, rfl, Stage.ungroup_group_regrouped hStandard ⟨name, e⟩ rows⟩

/-- Two rows whose keys are the zeros of both signs, and between them one without a key. -/
def zeroRows : List Row :=
  [.single (.boolean true) [("x", .object [("k", .number (.signedZero false))]), ("i", .string "k")],
    .single .null [("x", .object []), ("i", .boolean true)],
    .single (.boolean false) [("x", .object [("k", .number (.signedZero true))]), ("i", .string "k")]]

/-- The zeros are one key, and the row without a key is left out by both runs. -/
theorem run_group_flatten_regrouped_sort_zeros :
    Context.bare.operators = .standard ∧
    ∃ p q,
      run .bare zeroRows [.group ⟨"n", .index (.name "x") (.name "i")⟩, .flatten ⟨"n", .name "n"⟩] =
        .ok p ∧
      run .bare zeroRows [.sort [⟨.index (.name "x") (.name "i"), .ascending⟩]] = .ok q ∧
      p.rows.length = 2 ∧ p.meaning = .path ∧ q.meaning = .path ∧
        List.Forall₂ (Row.Regrouped .bare ⟨"n", .index (.name "x") (.name "i")⟩) p.rows q.rows := by
  have hSort := run_group_flatten_regrouped_sort .bare rfl zeroRows "n"
    (.index (.name "x") (.name "i")) (.name "n")
  obtain ⟨p, hGrouped, hLength⟩ : ∃ p,
      run .bare zeroRows [.group ⟨"n", .index (.name "x") (.name "i")⟩, .flatten ⟨"n", .name "n"⟩] =
        .ok p ∧ p.rows.length = 2 := ⟨_, by cbv, by cbv⟩
  obtain ⟨q, hSorted⟩ := hSort.1.mp ⟨p, hGrouped⟩
  exact ⟨rfl, p, q, hGrouped, hSorted, hLength, hSort.2 p q hGrouped hSorted⟩

end Pipeline
end DocQuery
