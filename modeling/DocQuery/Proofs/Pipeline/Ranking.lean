import Mathlib
import DocQuery.Proofs.Pipeline.Faults
import DocQuery.Proofs.Pipeline.Regroup
import DocQuery.Proofs.Sequence.Sort

/-!
The first rows in an order. Rows that have values for all sort fields are ranked by these values, and
where the values are equal by their places in the input, in either direction of a field. No two rows
have the same rank, so that sorting and limiting is taking the first ones of the only ranking there is.
-/

namespace DocQuery

variable {c : Context}

/-- Every item has one value. -/
theorem Expr.length_of_evalItems {row : Option Object} {items : List Expr} {values : List Value}
    (h : Expr.evalItems c row items = .ok values) : values.length = items.length := by
  induction items generalizing values with
  | nil =>
      rw [Expr.evalItems] at h
      cases h
      rfl
  | cons item rest ih =>
      rw [Expr.evalItems] at h
      obtain ⟨v, _, hRest⟩ := bind_eq_ok_iff.mp h
      obtain ⟨others, hOthers, hValues⟩ := bind_eq_ok_iff.mp hRest
      cases hValues
      rw [List.length_cons, List.length_cons, ih hOthers]

/-- A row with its place in the input and the values of sort fields. -/
structure Placed where
  place : Nat
  keys : List Value
  row : Row

namespace Placed

/-- Ranked before another row: by the values, each field in its direction and the earlier fields first,
or by place where the values are equal. -/
def Precedes (c : Context) (fields : List SortField) (a b : Placed) : Prop :=
  Stage.lexicographic (Stage.orderings c fields a.keys b.keys) = .lt ∨
    (Stage.lexicographic (Stage.orderings c fields a.keys b.keys) = .eq ∧ a.place < b.place)

/-- The rows for which all sort fields have values, in the order of the input. -/
def ofRows (c : Context) (fields : List SortField) (rows : List Row) : List Placed :=
  rows.zipIdx.filterMap fun (row, place) =>
    match Stage.keysOf c fields row with
    | .ok keys => some ⟨place, keys, row⟩
    | .error _ => none

variable {fields : List SortField} {rows : List Row}

/-- A row is placed where it stands, with its keys. -/
theorem mem_ofRows_iff {x : Placed} :
    x ∈ ofRows c fields rows ↔ rows[x.place]? = some x.row ∧ Stage.keysOf c fields x.row = .ok x.keys := by
  simp only [ofRows, List.mem_filterMap, Prod.exists, List.mk_mem_zipIdx_iff_getElem?]
  constructor
  · rintro ⟨row, place, hRow, hSome⟩
    split at hSome
    · next keys hKeys =>
        cases hSome
        exact ⟨hRow, hKeys⟩
    · cases hSome
  · rintro ⟨hRow, hKeys⟩
    exact ⟨x.row, x.place, hRow, by rw [hKeys]⟩

/-- Rows are placed in the order in which they stand. -/
theorem ofRows_ascending (c : Context) (fields : List SortField) (rows : List Row) :
    (ofRows c fields rows).Pairwise fun a b => a.place < b.place := by
  refine List.pairwise_filterMap.mpr ((Sequence.pairwise_zipIdx rows).imp ?_)
  rintro ⟨row, place⟩ ⟨other, later⟩ hLess a hFirst b hSecond
  dsimp only at hFirst hSecond
  split at hFirst
  · split at hSecond
    · cases hFirst
      cases hSecond
      exact hLess
    · cases hSecond
  · cases hFirst

/-- What is sorted are the placed rows with their keys. -/
theorem evaluate_eq_map_ofRows (c : Context) (fields : List SortField) (rows : List Row) :
    (Stage.evaluate (Stage.keysOf c fields) rows).rows =
      (ofRows c fields rows).map fun x => (x.keys, x.row) := by
  conv => lhs; rw [Stage.evaluate, ← List.zipIdx_map_fst 0 rows, List.filterMap_map]
  rw [ofRows, List.map_filterMap]
  refine congrArg (fun f => rows.zipIdx.filterMap f) (funext ?_)
  rintro ⟨row, place⟩
  dsimp only [Function.comp_apply]
  cases Stage.keysOf c fields row <;> rfl

end Placed

/-- The rows with values for all sort fields, as they are ranked. -/
structure IsRanking (c : Context) (fields : List SortField) (rows : List Row)
    (ranking : List Placed) : Prop where
  perm : ranking.Perm (Placed.ofRows c fields rows)
  sorted : ranking.Pairwise (Placed.Precedes c fields)

section

variable (hStandard : c.operators = .standard)
include hStandard

/-- The order of placed rows by their keys is transitive. -/
theorem transCmp_placed (fields : List SortField) :
    Std.TransCmp fun a b : {x : Placed // x.keys.length = fields.length} =>
      Stage.lexicographic (Stage.orderings c fields a.1.keys b.1.keys) := by
  simp only [← Stage.orderKeys_eq_lexicographic hStandard]
  have hKeys := Stage.orderKeys_transCmp hStandard fields
  exact transCmp_comap (fun as bs : Stage.KeyVector fields => Stage.orderKeys c fields as.1 bs.1)
    fun x : {x : Placed // x.keys.length = fields.length} => ⟨x.1.keys, x.2⟩

/-- Sorting puts the rows into a ranking. -/
theorem exists_ranking (fields : List SortField) (rows : List Row) :
    ∃ ranking, IsRanking c fields rows ranking ∧
      (Stage.sort c fields rows).rows = ranking.map Placed.row := by
  refine ⟨Sequence.sortBy
    (fun a b => Stage.lexicographic (Stage.orderings c fields a.keys b.keys))
    (Placed.ofRows c fields rows), ⟨List.mergeSort_perm _ _, ?_⟩, ?_⟩
  · refine Sequence.sortBy_pairwise (transCmp_placed hStandard fields) (fun x hx => ?_)
      (Placed.ofRows_ascending c fields rows)
    rw [Expr.length_of_evalItems (Placed.mem_ofRows_iff.mp hx).2, List.length_map]
  · rw [Stage.sort, Stage.andThen, Placed.evaluate_eq_map_ofRows, Sequence.sortBy, Sequence.sortBy,
      ← List.map_mergeSort (r := fun a b : Placed =>
        Stage.lexicographic (Stage.orderings c fields a.keys b.keys) != .gt)
        (fun a _ b _ => by rw [Stage.orderKeys_eq_lexicographic hStandard]), List.map_map]
    rfl

/-- No two rows have the same rank. -/
theorem Placed.Precedes.asymm {fields : List SortField} {a b : Placed} (h : a.Precedes c fields b) :
    ¬ b.Precedes c fields a := by
  have hSwap : Stage.lexicographic (Stage.orderings c fields b.keys a.keys) =
      (Stage.lexicographic (Stage.orderings c fields a.keys b.keys)).swap := by
    simp only [← Stage.orderKeys_eq_lexicographic hStandard]
    exact Stage.orderKeys_swap hStandard fields b.keys a.keys
  rw [Placed.Precedes, hSwap]
  rcases h with hLess | ⟨hEqual, hPlace⟩
  · simp [hLess]
  · simpa [hEqual] using hPlace.le

/-- There is only one ranking of the rows by the fields. -/
theorem IsRanking.unique {fields : List SortField} {rows : List Row} {ranking other : List Placed}
    (h : IsRanking c fields rows ranking) (hOther : IsRanking c fields rows other) :
    other = ranking :=
  (hOther.perm.trans h.perm.symm).eq_of_pairwise
    (fun _ _ _ _ hBefore hAfter => absurd hAfter (hBefore.asymm hStandard)) hOther.sorted h.sorted

end

namespace Pipeline

variable {rows : List Row} {fields : List SortField} {p : Pipeline}

/-- Behind a sort and a limit stand the first rows of the sort, if the sort passes. -/
theorem run_sort_limit_eq_ok_iff {amount : Expr} {count : Nat}
    (hCount : Stage.LimitsTo c amount count) :
    run c rows [.sort fields, .limit amount] = .ok p ↔
      Passes rows.length (Stage.sort c fields rows) ∧
        p = advance (advance { rows } "sort" .path (Stage.sort c fields rows)) "limit" .path
          ⟨(Stage.sort c fields rows).rows.take count, []⟩ := by
  rw [run_pair_eq_ok_iff rfl (attempt_limit_eq_ok_iff.mpr ⟨count, hCount, rfl, rfl⟩)]
  exact and_congr_right fun _ => and_iff_right (passes_of_no_errors _ _)

/-- Some row has values for all sort fields, unless there are no rows. -/
theorem passes_sort_iff :
    Passes rows.length (Stage.sort c fields rows) ↔ rows = [] ∨ Placed.ofRows c fields rows ≠ [] := by
  have hAll := Stage.length_evaluate (Stage.keysOf c fields) rows
  have hErrors : (Stage.sort c fields rows).errors =
      (Stage.evaluate (Stage.keysOf c fields) rows).errors := rfl
  rw [Placed.evaluate_eq_map_ofRows, List.length_map] at hAll
  rw [Passes, hErrors, List.length_eq_zero_iff]
  refine or_congr_right (not_congr ?_)
  rw [← List.length_eq_zero_iff]
  omega

/-- Sorting and limiting succeeds when some row can be sorted or there is none at all. It returns the
first rows, as many as the limit says, of the only ranking of the rows that can be sorted, and each of
them as it was. -/
theorem run_sort_limit (c : Context) (hStandard : c.operators = .standard) (rows : List Row)
    (fields : List SortField) (amount : Expr) (count : Nat)
    (hCount : Stage.LimitsTo c amount count) :
    ((∃ p, run c rows [.sort fields, .limit amount] = .ok p) ↔
      rows = [] ∨ Placed.ofRows c fields rows ≠ []) ∧
    ∀ p, run c rows [.sort fields, .limit amount] = .ok p →
      ∃ ranking, IsRanking c fields rows ranking ∧
        (∀ other, IsRanking c fields rows other → other = ranking) ∧
        p.rows = (ranking.take count).map Placed.row ∧
        p.rows.length = min count (Placed.ofRows c fields rows).length ∧
        ∀ kept ∈ ranking.take count, ∀ dropped ∈ ranking.drop count,
          kept.Precedes c fields dropped := by
  simp only [run_sort_limit_eq_ok_iff hCount, passes_sort_iff]
  refine ⟨by simp, ?_⟩
  rintro p ⟨_, rfl⟩
  obtain ⟨ranking, hRanking, hRows⟩ := exists_ranking hStandard fields rows
  have hFirst : (Stage.sort c fields rows).rows.take count = (ranking.take count).map Placed.row := by
    rw [hRows, List.map_take]
  refine ⟨ranking, hRanking, fun other hOther => hRanking.unique hStandard hOther, hFirst, ?_, ?_⟩
  · rw [advance, hFirst, List.length_map, List.length_take, hRanking.perm.length_eq]
  · have hSorted := hRanking.sorted
    rw [← List.take_append_drop count ranking, List.pairwise_append] at hSorted
    exact hSorted.2.2

/-- Rows with a flag: the first and the last are set, the second has no flag, and the third is not
set. -/
def flagRows : List Row :=
  [.single (.string "a") [("x", .object [("k", .boolean true)]), ("i", .string "k")],
    .single (.string "b") [("x", .object []), ("i", .boolean true)],
    .single (.string "c") [("x", .object [("k", .boolean false)]), ("i", .string "k")],
    .single (.string "d") [("x", .object [("k", .boolean true)]), ("i", .string "k")]]

def flagFields : List SortField := [⟨.index (.name "x") (.name "i"), .descending⟩]

/-- Two rows with equal flags are the first ones, in the order of the input though the direction is
turned round. -/
theorem run_sort_limit_flags :
    Context.bare.operators = .standard ∧ Stage.LimitsTo .bare (.literal (.number 2)) 2 ∧
    ∃ p, run .bare flagRows [.sort flagFields, .limit (.literal (.number 2))] = .ok p ∧
      p.rows.map Row.id = [.string "a", .string "d"] ∧
      ∃ ranking, IsRanking .bare flagFields flagRows ranking ∧
        (∀ other, IsRanking .bare flagFields flagRows other → other = ranking) ∧
        p.rows = (ranking.take 2).map Placed.row ∧
        p.rows.length = min 2 (Placed.ofRows .bare flagFields flagRows).length ∧
        ∀ kept ∈ ranking.take 2, ∀ dropped ∈ ranking.drop 2,
          kept.Precedes .bare flagFields dropped := by
  have hCount : Stage.LimitsTo .bare (.literal (.number 2)) 2 :=
    ⟨2, rfl, by decide +kernel, by decide +kernel, by decide +kernel⟩
  obtain ⟨hSucceeds, hFirst⟩ := run_sort_limit .bare rfl flagRows flagFields (.literal (.number 2)) 2 hCount
  have hFlags : Placed.ofRows .bare flagFields flagRows ≠ [] := by
    cbv
    exact List.cons_ne_nil _ _
  obtain ⟨p, hRun⟩ := hSucceeds.mpr (.inr hFlags)
  have hIds : p.rows.map Row.id = [.string "a", .string "d"] := by
    obtain ⟨_, rfl⟩ := (run_sort_limit_eq_ok_iff hCount).mp hRun
    have hSorted : (Stage.sort .bare flagFields flagRows).rows.map Row.id =
        [.string "a", .string "d", .string "c"] := by cbv
    rw [advance, List.map_take, hSorted]
    rfl
  exact ⟨rfl, hCount, p, hRun, hIds, hFirst p hRun⟩

end Pipeline
end DocQuery
