import Mathlib
import DocQuery.Proofs.Eval.Variables
import DocQuery.Proofs.Pipeline.Selection

/-!
Flattening as a function of the rows alone, and filters that pass through it. The copies of a row differ
from it in one field, so a clause that does not read this field keeps all copies of a row or none.
-/

namespace DocQuery

variable {c : Context} {rows : List Row}

namespace Stage

/-- The rows that a row is spread over; there are none where the target has no value. -/
def spreadOf (c : Context) (target : NamedExpr) (row : Row) : List Row :=
  match valueOf c target.expr row with
  | .ok v => spreadRow target.name v row
  | .error _ => []

/-- Flattening spreads each row by itself. -/
theorem flatten_rows_eq (c : Context) (target : NamedExpr) (rows : List Row) :
    (flatten c target rows).rows = rows.flatMap (spreadOf c target) := by
  induction rows with
  | nil => rfl
  | cons row rest ih =>
      simp only [flatten, andThen, evaluate, List.filterMap_cons] at ih ⊢
      rw [List.flatMap_cons, spreadOf]
      cases valueOf c target.expr row with
      | error e => exact ih
      | ok v => rw [List.flatMap_cons, ih]

/-- A copy of a row has an element in the place of the array. -/
theorem exists_of_mem_spreadOf {target : NamedExpr} {row copy : Row}
    (h : copy ∈ spreadOf c target row) : ∃ item, copy = row.set target.name item := by
  rw [spreadOf] at h
  split at h
  · exact mem_spreadRow h
  · exact absurd h List.not_mem_nil

/-- An expression that does not name a field has the same value when the field is set. -/
theorem valueOf_set {e : Expr} {name : String} (hName : name ∉ e.vars)
    (hRow : "row" ∉ e.vars) (row : Row) (v : Value) :
    valueOf c e (row.set name v) = valueOf c e row := by
  apply Expr.eval_congr (Context.Shares.refl c)
  intro other hOther
  apply Context.lookup_set_of_ne
  · rintro rfl
    exact hName hOther
  · rintro rfl
    exact hRow hOther

/-- A clause that does not read the field of a flattening keeps all copies of a row or none. -/
theorem keeps_of_mem_spreadOf {clause : Expr} {target : NamedExpr}
    (hName : target.name ∉ clause.vars) (hRow : "row" ∉ clause.vars) {row copy : Row}
    (h : copy ∈ spreadOf c target row) : keeps c clause copy = keeps c clause row := by
  obtain ⟨item, rfl⟩ := exists_of_mem_spreadOf h
  rw [keeps, keeps, valueOf_set hName hRow]

/-- What is kept or left out together with all that it stands for may be left out before. -/
theorem filter_flatMap_of_forall {α β : Type} {f : α → List β} {keep : α → Bool} {keepEach : β → Bool}
    (h : ∀ a, ∀ b ∈ f a, keepEach b = keep a) (items : List α) :
    (items.flatMap f).filter keepEach = (items.filter keep).flatMap f := by
  induction items with
  | nil => rfl
  | cons a rest ih =>
      rw [List.flatMap_cons, List.filter_append, ih, List.filter_cons]
      cases hKeep : keep a with
      | true =>
          have hAll : (f a).filter keepEach = f a :=
            List.filter_eq_self.mpr fun b hb => (h a b hb).trans hKeep
          rw [hAll, if_pos rfl, List.flatMap_cons]
      | false =>
          have hNone : (f a).filter keepEach = [] :=
            List.filter_eq_nil_iff.mpr fun b hb => by simp [h a b hb, hKeep]
          rw [hNone, List.nil_append, if_neg Bool.false_ne_true]

/-- What is not kept can be left out before the rows are spread or behind it, if the clause does not look at
what is spread. -/
theorem filter_flatten_rows {clause : Expr} {target : NamedExpr}
    (hName : target.name ∉ clause.vars) (hRow : "row" ∉ clause.vars) (rows : List Row) :
    (filter c clause (flatten c target rows).rows).rows =
      (flatten c target (filter c clause rows).rows).rows := by
  calc (filter c clause (flatten c target rows).rows).rows
      = (rows.flatMap (spreadOf c target)).filter (keeps c clause) := by
        rw [filter_rows_eq, flatten_rows_eq]
    _ = (rows.filter (keeps c clause)).flatMap (spreadOf c target) :=
        filter_flatMap_of_forall (fun _ _ => keeps_of_mem_spreadOf hName hRow) rows
    _ = (flatten c target (filter c clause rows).rows).rows := by
        rw [filter_rows_eq, flatten_rows_eq]

theorem rows_ne_nil_of_flatten {target : NamedExpr} (h : (flatten c target rows).rows ≠ []) :
    rows ≠ [] := by
  rintro rfl
  exact h rfl

theorem rows_ne_nil_of_filter {clause : Expr} (h : (filter c clause rows).rows ≠ []) : rows ≠ [] := by
  rintro rfl
  exact h rfl

end Stage

namespace Pipeline

/-- A flattening that lets a row through is accepted. -/
theorem passes_flatten {target : NamedExpr} (h : (Stage.flatten c target rows).rows ≠ []) :
    Passes rows.length (Stage.flatten c target rows) := by
  have hKept : (Stage.evaluate (Stage.valueOf c target.expr) rows).rows ≠ [] := by
    intro hNone
    apply h
    rw [Stage.flatten, Stage.andThen, hNone, List.flatMap_nil]
  have hPos := List.length_pos_iff.mpr hKept
  have hCount := Stage.length_evaluate (Stage.valueOf c target.expr) rows
  have hErrors : (Stage.flatten c target rows).errors =
      (Stage.evaluate (Stage.valueOf c target.expr) rows).errors := rfl
  rw [Passes, hErrors]
  omega

/-- Filtering before or after flattening gives the same rows in the same order, where both runs succeed.
They do when one of them returns a row. -/
theorem run_filter_flatten (c : Context) (rows : List Row) (clause : Expr) (target : NamedExpr)
    (hName : target.name ∉ clause.vars) (hRow : "row" ∉ clause.vars) :
    ((∃ p, run c rows [.filter clause, .flatten target] = .ok p ∧ p.rows ≠ []) ↔
      ∃ q, run c rows [.flatten target, .filter clause] = .ok q ∧ q.rows ≠ []) ∧
    ∀ p q, run c rows [.filter clause, .flatten target] = .ok p →
      run c rows [.flatten target, .filter clause] = .ok q → p.rows = q.rows := by
  have hRows := Stage.filter_flatten_rows (c := c) hName hRow rows
  have hFiltered (before : List Row) :
      (Stage.filter c clause before).rows ≠ [] → Passes before.length (Stage.filter c clause before) :=
    passes_of_rows_ne_nil (Stage.length_filter_rows clause before)
  constructor
  · rw [exists_run_pair_iff_of_passes rfl rfl (hFiltered rows) passes_flatten
        Stage.rows_ne_nil_of_flatten,
      exists_run_pair_iff_of_passes rfl rfl passes_flatten (hFiltered _)
        Stage.rows_ne_nil_of_filter, hRows]
  · intro p q hFilterFirst hFlattenFirst
    obtain ⟨_, _, rfl⟩ := (run_pair_eq_ok_iff rfl rfl).mp hFilterFirst
    obtain ⟨_, _, rfl⟩ := (run_pair_eq_ok_iff rfl rfl).mp hFlattenFirst
    exact hRows.symm

def taggedRow (id : String) (flag : Option Bool) (tags : Value) : Row :=
  .single (.string id) [("x", (flagAndKey flag).1), ("i", (flagAndKey flag).2), ("tags", tags)]

/-- Rows with two tags, with none and with one that is no list, among rows without the flag. -/
def taggedRows : List Row :=
  [taggedRow "a" (some true) (.array [.string "u", .string "v"]), taggedRow "b" none (.array [.null]),
    taggedRow "c" (some true) (.array []), taggedRow "d" (some false) (.array [.string "w"]),
    taggedRow "e" (some true) (.string "w")]

/-- Tags are spread over the flagged rows, in either order. -/
theorem run_filter_flatten_tags :
    ("tag" ∉ firstFlag.vars ∧ "row" ∉ firstFlag.vars) ∧ ∃ p q,
      run .bare taggedRows [.filter firstFlag, .flatten ⟨"tag", .name "tags"⟩] = .ok p ∧
      run .bare taggedRows [.flatten ⟨"tag", .name "tags"⟩, .filter firstFlag] = .ok q ∧
      p.rows.map Row.id = [.string "a", .string "a", .string "e"] ∧ p.rows = q.rows := by
  have hName : "tag" ∉ firstFlag.vars := by decide
  have hRow : "row" ∉ firstFlag.vars := by decide
  obtain ⟨hSucceeds, hSame⟩ :=
    run_filter_flatten .bare taggedRows firstFlag ⟨"tag", .name "tags"⟩ hName hRow
  obtain ⟨p, hFilterFirst, hIds⟩ : ∃ p,
      run .bare taggedRows [.filter firstFlag, .flatten ⟨"tag", .name "tags"⟩] = .ok p ∧
        p.rows.map Row.id = [.string "a", .string "a", .string "e"] := ⟨_, by cbv, by cbv⟩
  have hSome : p.rows ≠ [] := by
    intro hNone
    simp [hNone] at hIds
  obtain ⟨q, hFlattenFirst, _⟩ := hSucceeds.mp ⟨p, hFilterFirst, hSome⟩
  exact ⟨⟨hName, hRow⟩, p, q, hFilterFirst, hFlattenFirst, hIds, hSame p q hFilterFirst hFlattenFirst⟩

end Pipeline
end DocQuery
