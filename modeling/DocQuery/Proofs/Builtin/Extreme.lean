import Mathlib
import DocQuery.Proofs.Eval.Comparison
import DocQuery.Proofs.Sequence.Distinct

/-!
The least and the greatest of a list beside the sorted list and the list without repetitions. All three go by
the same order, which does not tell everything apart, and by the places of what it does not tell apart: the
first of equal things is the one that is found, kept, and sorted to the front.
-/

namespace DocQuery

namespace Builtin

open Sequence

variable {order : Value → Value → Ordering} {items : List Value} {v : Value}

/-- A value that is less than all before it, while none behind it is less than it. -/
def FirstLeast (order : Value → Value → Ordering) (items : List Value) (v : Value) : Prop :=
  ∃ before after, items = before ++ v :: after ∧
    (∀ w ∈ before, order v w = .lt) ∧ ∀ w ∈ after, order w v ≠ .lt

/-- The greatest item is the least one by the reversed order. -/
theorem extreme_gt [Std.TransCmp order] (items : List Value) :
    extreme order .gt items = extreme (fun a b => order b a) .lt items := by
  have hSide (v best : Value) : order v best = .gt ↔ order best v = .lt := Std.OrientedCmp.gt_iff_lt
  cases items with
  | nil => rfl
  | cons v rest => simp only [extreme, hSide]

namespace FirstLeast

/-- The first item is the least one as long as no later one is below it. -/
theorem head (v : Value) (items : List Value) (hItems : ∀ w ∈ items, order w v ≠ .lt) :
    FirstLeast order (v :: items) v :=
  ⟨[], items, rfl, List.forall_mem_nil _, hItems⟩

variable [Std.TransCmp order]

theorem not_gt (h : FirstLeast order items v) : ∀ w ∈ items, order v w ≠ .gt := by
  obtain ⟨before, after, rfl, hBefore, hAfter⟩ := h
  have hSwap (w : Value) (hw : order w v ≠ .lt) : order v w ≠ .gt := by
    rwa [Ne, Std.OrientedCmp.gt_iff_lt]
  intro w hw
  rcases List.mem_append.mp hw with hFirst | hw
  · simp [hBefore w hFirst]
  · rcases List.mem_cons.mp hw with rfl | hLater
    · simp [Std.ReflCmp.compare_self]
    · exact hSwap w (hAfter w hLater)

/-- What is less than the first value leads to a value that is less than it, too. -/
theorem cons {u w : Value} (h : FirstLeast order (w :: items) v) (hLess : order w u = .lt) :
    FirstLeast order (u :: w :: items) v := by
  have hBelow : order v u = .lt :=
    (composes_of_transCmp order v w u (h.not_gt w List.mem_cons_self) (by simp [hLess])).2 (.inr hLess)
  obtain ⟨before, after, hItems, hBefore, hAfter⟩ := h
  exact ⟨u :: before, after, by rw [hItems]; rfl, List.forall_mem_cons.mpr ⟨hBelow, hBefore⟩, hAfter⟩

/-- A value that is not less than the first one makes no difference behind it. -/
theorem insert {u w : Value} (h : FirstLeast order (u :: items) v) (hNotLess : order w u ≠ .lt) :
    FirstLeast order (u :: w :: items) v := by
  obtain ⟨before, after, hItems, hBefore, hAfter⟩ := h
  cases before with
  | nil =>
      cases hItems
      exact head _ (w :: items) (List.forall_mem_cons.mpr ⟨hNotLess, hAfter⟩)
  | cons first before =>
      cases hItems
      obtain ⟨hFirst, hBefore⟩ := List.forall_mem_cons.mp hBefore
      have hAbove : order v w = .lt := by
        have hUp : order u w ≠ .gt := by rwa [Ne, Std.OrientedCmp.gt_iff_lt]
        exact (composes_of_transCmp order v u w (by simp [hFirst]) hUp).2 (.inl hFirst)
      exact ⟨_ :: w :: before, after, rfl,
        List.forall_mem_cons.mpr ⟨hFirst, List.forall_mem_cons.mpr ⟨hAbove, hBefore⟩⟩, hAfter⟩

/-- It is the first one of those that are equal to it. -/
theorem find? (h : FirstLeast order items v) :
    items.find? (fun w => order w v == .eq) = some v := by
  obtain ⟨before, after, hItems, hBefore, -⟩ := h
  apply List.find?_eq_some_iff_append.mpr
  refine ⟨beq_iff_eq.mpr Std.ReflCmp.compare_self, before, after, hItems, fun w hw => ?_⟩
  rw [swap_of_transCmp order w v, hBefore w hw]
  rfl

/-- It comes first when the values are sorted. -/
theorem head?_sortBy (h : FirstLeast order items v) : (sortBy order items).head? = some v := by
  have hFind := h.find?
  rw [← find?_sortBy] at hFind
  have hMem : v ∈ sortBy order items := List.mem_of_find?_eq_some hFind
  cases hItems : sortBy order items with
  | nil =>
      rw [hItems] at hMem
      cases hMem
  | cons first rest =>
      have hSorted := @sortBy_ascends _ order _ items
      have hFirst : order v first ≠ .gt := by
        apply h.not_gt
        rw [← List.mem_mergeSort, ← sortBy, hItems]
        exact List.mem_cons_self
      rw [hItems] at hFind hMem hSorted
      have hEqual : order first v = .eq := by
        rcases List.mem_cons.mp hMem with rfl | hLater
        · exact Std.ReflCmp.compare_self
        · exact eq_of_not_gt ((List.pairwise_cons.mp hSorted).1 v hLater) hFirst
      rw [List.find?_cons_of_pos (by simp [hEqual])] at hFind
      exact hFind

end FirstLeast

/-- The search for the least value finds the first one. -/
theorem exists_extreme_lt [Std.TransCmp order] (hItems : items ≠ []) :
    ∃ v, extreme order .lt items = some v ∧ FirstLeast order items v := by
  cases items with
  | nil => exact absurd rfl hItems
  | cons v rest =>
      refine ⟨_, rfl, ?_⟩
      clear hItems
      induction rest generalizing v with
      | nil => exact FirstLeast.head v [] (List.forall_mem_nil _)
      | cons w rest ih =>
          rw [List.foldl_cons]
          split
          · next hLess => exact (ih w).cons hLess
          · next hNotLess => exact (ih v).insert hNotLess

/-- The last of the sorted values equals the greatest, which is the first one of those that equal it. -/
theorem exists_extreme_gt [Std.TransCmp order] (hItems : items ≠ []) :
    ∃ v last before after, extreme order .gt items = some v ∧
      (sortBy order items).getLast? = some last ∧ order v last = .eq ∧
      items = before ++ v :: after ∧ ∀ w ∈ before, order w last ≠ .eq := by
  have hOpposite : Std.TransCmp fun a b => order b a := inferInstance
  obtain ⟨v, hExtreme, hFirst⟩ := @exists_extreme_lt (fun a b => order b a) items _ hItems
  have hGreatest : ∀ w ∈ items, order w v ≠ .gt := hFirst.not_gt
  obtain ⟨before, after, hSplit, hBefore, -⟩ := hFirst
  have hMem (w : Value) : w ∈ sortBy order items ↔ w ∈ items := List.mem_mergeSort
  have hV : v ∈ sortBy order items := by
    rw [hMem, hSplit]
    exact List.mem_append_right before List.mem_cons_self
  obtain ⟨smaller, last, hEnd⟩ := (List.eq_nil_or_concat' _).resolve_left (List.ne_nil_of_mem hV)
  have hLast : (sortBy order items).getLast? = some last := by rw [hEnd, List.getLast?_concat]
  have hEqual : order v last = .eq := by
    have hSorted := @sortBy_ascends _ order _ items
    have hDown : order last v ≠ .gt := by
      apply hGreatest
      rw [← hMem, hEnd]
      exact List.mem_concat_self
    rw [hEnd] at hSorted hV
    rcases List.mem_append.mp hV with hSmaller | hSelf
    · have hUp := (List.pairwise_append.mp hSorted).2.2 v hSmaller last List.mem_cons_self
      exact eq_of_not_gt hUp hDown
    · rw [List.mem_singleton.mp hSelf]
      exact Std.ReflCmp.compare_self
  refine ⟨v, last, before, after, ?_, hLast, hEqual, hSplit, ?_⟩
  · rw [extreme_gt, hExtreme]
  · intro w hw hSame
    have hLess : order w v = .lt := hBefore w hw
    have hNot : order w v = .eq := Std.TransCmp.eq_trans hSame (Std.OrientedCmp.eq_symm hEqual)
    rw [hLess] at hNot
    cases hNot

end Builtin

namespace Context

open Builtin Sequence

variable {c : Context}

/-- What the functions on lists come down to. -/
theorem call_list_functions (hTable : c.functions = Builtin.table) (xs : List Value) :
    c.call "sort" [.array xs] = .ok (.array (sortBy c.compare xs)) ∧
    c.call "unique" [.array xs] = .ok (.array (distinctBy c.compare xs)) ∧
    c.call "min" [.array xs] = .ok ((extreme c.compare .lt xs).getD .null) ∧
    c.call "max" [.array xs] = .ok ((extreme c.compare .gt xs).getD .null) := by
  simp only [call, hTable]
  exact ⟨rfl, rfl, rfl, rfl⟩

/-- The list functions agree: the least value is the first one of the sorted values; the greatest is equal to
the last of them, and no value before it is; the values without repetitions stand as they stood, no two of
them equal, and sorting them leaves the first values of the runs of the sorted values. -/
theorem call_extremes_sorted (hTable : c.functions = Builtin.table) {xs : List Value} (hXs : xs ≠ []) :
    ∃ sorted least greatest distinct,
      c.call "sort" [.array xs] = .ok (.array sorted) ∧
      (c.call "min" [.array xs] = .ok least ∧ sorted.head? = some least) ∧
      (c.call "max" [.array xs] = .ok greatest ∧ ∃ last before after,
        sorted.getLast? = some last ∧ c.compare greatest last = .eq ∧
        xs = before ++ greatest :: after ∧ ∀ v ∈ before, c.compare v last ≠ .eq) ∧
      (c.call "unique" [.array xs] = .ok (.array distinct) ∧ distinct.Sublist xs ∧
        distinct.Pairwise fun a b => c.compare a b ≠ .eq) ∧
      c.call "sort" [.array distinct] = .ok (.array (firstOfRuns c.compare sorted)) := by
  obtain ⟨hSort, hUnique, hMin, hMax⟩ := call_list_functions hTable xs
  obtain ⟨least, hLeast, hFirst⟩ := @exists_extreme_lt c.compare xs _ hXs
  obtain ⟨greatest, last, before, after, hGreatest, hLast⟩ := @exists_extreme_gt c.compare xs _ hXs
  rw [hLeast] at hMin
  rw [hGreatest] at hMax
  refine ⟨_, least, greatest, _, hSort, ⟨hMin, hFirst.head?_sortBy⟩,
    ⟨hMax, last, before, after, hLast⟩,
    ⟨hUnique, distinctBy_sublist xs, distinctBy_pairwise xs⟩, ?_⟩
  rw [(call_list_functions hTable _).1, sortBy_distinctBy, distinctBy_of_sorted (sortBy_ascends xs)]

/-- Two links to one document that are shown differently, and null between them. -/
def twinLinks : List Value :=
  [.link { Link.file "a.md" with display := some "x" }, .null,
    .link { Link.file "a.md" with display := some "y" }]

/-- Of the two links the first one is the greatest, although the second one is sorted to the end. -/
theorem call_extremes_sorted_twinLinks : twinLinks ≠ [] ∧
    ∃ first last, bare.call "sort" [.array twinLinks] = .ok (.array [.null, first, last]) ∧
      bare.call "min" [.array twinLinks] = .ok .null ∧ bare.call "max" [.array twinLinks] = .ok first ∧
      bare.compare first last = .eq ∧ first ≠ last := by
  have hSome : twinLinks ≠ [] := nofun
  obtain ⟨sorted, least, greatest, distinct, hSort, ⟨hMin, hHead⟩,
    ⟨hMax, last, before, after, hLast, hEqual, -⟩, -⟩ := @call_extremes_sorted bare rfl twinLinks hSome
  have hSorted : bare.call "sort" [.array twinLinks] =
      .ok (.array [.null, twinLinks[0], twinLinks[2]]) := by cbv
  have hGreatest : bare.call "max" [.array twinLinks] = .ok twinLinks[0] := rfl
  cases hSort.symm.trans hSorted
  cases hMax.symm.trans hGreatest
  cases hHead
  cases hLast
  exact ⟨hSome, _, _, hSorted, hMin, hGreatest, hEqual, by simp [twinLinks]⟩

end Context

end DocQuery
