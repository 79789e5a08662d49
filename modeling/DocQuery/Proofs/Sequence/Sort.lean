import Mathlib
import DocQuery.Proofs.Ordering
import DocQuery.Proofs.Sequence

/-!
Sorting a list by an order is stable: what the order does not tell apart keeps whatever relation it had
by its places. The order needs to be one for the things in the list only. A stable sort is the only one,
so that sorting goes together with leaving things out and with sorting by another order.
-/

namespace DocQuery.Sequence

variable {α : Type}

/-- Sorting what things are taken to is sorting the things by it. -/
theorem sortBy_map {β : Type} (order : α → α → Ordering) (f : β → α) (items : List β) :
    sortBy order (items.map f) = (sortBy (fun a b => order (f a) (f b)) items).map f :=
  (@List.map_mergeSort _ _ (fun a b => order (f a) (f b) != .gt) (fun a b => order a b != .gt) f items
    fun _ _ _ _ => rfl).symm

/-- Sorted by an order, and by an older relation where the order leaves the matter open. -/
def Refines (order : α → α → Ordering) (R : α → α → Prop) (a b : α) : Prop :=
  order a b = .lt ∨ (order a b = .eq ∧ R a b)

/-- What comes out sorted refines every relation that the things had by their places. Sorting them is
sorting them together with their places, and these decide between equal things. -/
theorem sortBy_pairwise_of_transCmp (order : α → α → Ordering) [Std.TransCmp order]
    {R : α → α → Prop} {items : List α} (hItems : items.Pairwise R) :
    (sortBy order items).Pairwise (Refines order R) := by
  have hTrans (a b c : α) (hab : (order a b != .gt) = true) (hbc : (order b c != .gt) = true) :
      (order a c != .gt) = true := by
    simp only [bne_iff_ne] at hab hbc ⊢
    exact (composes_of_transCmp order a b c hab hbc).1
  have hTotal (a b : α) : ((order a b != .gt) || (order b a != .gt)) = true := by
    rw [swap_of_transCmp order a b]
    cases order b a <;> rfl
  have hSorted := List.pairwise_mergeSort (List.zipIdxLE_trans hTrans) (List.zipIdxLE_total hTotal)
    items.zipIdx
  have hPlaces : (items.zipIdx.mergeSort (List.zipIdxLE fun a b => order a b != .gt)).Pairwise
      fun a b => a.2 ≠ b.2 := by
    rw [(List.mergeSort_perm _ _).pairwise_iff Ne.symm]
    exact (pairwise_zipIdx items).imp ne_of_lt
  rw [sortBy, ← List.mergeSort_zipIdx, List.pairwise_map]
  refine (hSorted.and hPlaces).imp_of_mem ?_
  rintro ⟨a, i⟩ ⟨b, j⟩ hA hB ⟨hLe, hNe⟩
  rw [List.mem_mergeSort, List.mk_mem_zipIdx_iff_getElem?, List.getElem?_eq_some_iff] at hA hB
  obtain ⟨hi, rfl⟩ := hA
  obtain ⟨hj, rfl⟩ := hB
  have hSwap := swap_of_transCmp order items[j] items[i]
  rw [List.zipIdxLE] at hLe
  cases hOrder : order items[i] items[j] with
  | lt => exact .inl hOrder
  | gt => simp [hOrder] at hLe
  | eq =>
      rw [hOrder] at hSwap
      have hBefore : i ≤ j := by simpa [hOrder, hSwap] using hLe
      exact .inr ⟨hOrder, List.pairwise_iff_getElem.mp hItems i j hi hj (hBefore.lt_of_ne hNe)⟩

/-- What is sorted does not descend. -/
theorem sortBy_ascends {order : α → α → Ordering} [Std.TransCmp order] (items : List α) :
    (sortBy order items).Pairwise fun a b => order a b ≠ .gt := by
  have hItems : items.Pairwise fun _ _ => True := List.pairwise_of_forall fun _ _ => trivial
  apply (sortBy_pairwise_of_transCmp order hItems).imp
  rintro a b (hLess | ⟨hEqual, -⟩)
  · simp [hLess]
  · simp [hEqual]

/-- The same for an order of the things with a property that all things in the list have. -/
theorem sortBy_pairwise {order : α → α → Ordering} {P : α → Prop}
    (hOrder : Std.TransCmp fun a b : {x // P x} => order a.1 b.1) {R : α → α → Prop} {items : List α}
    (hAll : ∀ x ∈ items, P x) (hItems : items.Pairwise R) :
    (sortBy order items).Pairwise (Refines order R) := by
  obtain ⟨kept, rfl⟩ : ∃ kept : List {x // P x}, kept.map Subtype.val = items :=
    ⟨items.attachWith P hAll, List.attachWith_map_subtype_val hAll⟩
  rw [sortBy_map, List.pairwise_map]
  exact sortBy_pairwise_of_transCmp _ (List.pairwise_map.mp hItems)

section Unique

variable {order : α → α → Ordering} [Std.TransCmp order] {R : α → α → Prop}

/-- A refined order puts things on one side of each other only. -/
theorem Refines.asymm (hR : ∀ a b, R a b → ¬ R b a) {a b : α} (h : Refines order R a b) :
    ¬ Refines order R b a := by
  rw [Refines, swap_of_transCmp order b a]
  rcases h with hLess | ⟨hEqual, hBefore⟩
  · simp [hLess]
  · simpa [hEqual] using hR a b hBefore

/-- Where places tell all things apart, they can be sorted in one way only. -/
theorem eq_sortBy_of_pairwise (hR : ∀ a b, R a b → ¬ R b a) {items sorted : List α}
    (hItems : items.Pairwise R) (hPerm : sorted.Perm items)
    (hSorted : sorted.Pairwise (Refines order R)) : sorted = sortBy order items :=
  (hPerm.trans (List.mergeSort_perm _ _).symm).eq_of_pairwise
    (fun _ _ _ _ hBefore hAfter => absurd hAfter (hBefore.asymm hR)) hSorted
    (sortBy_pairwise_of_transCmp order hItems)

end Unique

/-- Every list is one of things at places, without the places. -/
theorem exists_placed (items : List α) :
    ∃ placed : List (α × Nat), placed.map Prod.fst = items ∧ placed.Pairwise fun a b => a.2 < b.2 :=
  ⟨items.zipIdx, List.zipIdx_map_fst 0 items, pairwise_zipIdx items⟩

/-- Leaving things out before or after sorting makes no difference. -/
theorem filter_sortBy (order : α → α → Ordering) [Std.TransCmp order] (keep : α → Bool)
    (items : List α) : (sortBy order items).filter keep = sortBy order (items.filter keep) := by
  obtain ⟨placed, rfl, hPlaced⟩ := exists_placed items
  have hOrder := transCmp_comap order (Prod.fst : α × Nat → α)
  have hSorted := (sortBy_pairwise_of_transCmp (fun a b => order a.1 b.1) hPlaced).filter
    (keep ∘ Prod.fst)
  rw [sortBy_map, List.filter_map, List.filter_map, sortBy_map]
  apply congrArg (List.map Prod.fst)
  exact eq_sortBy_of_pairwise (fun _ _ => Nat.lt_asymm) (hPlaced.filter _)
    ((List.mergeSort_perm _ _).filter _) hSorted

/-- Sorting by one order and then by another one is sorting by the later order first and by the earlier
one where the later order leaves the matter open. -/
theorem sortBy_sortBy (major minor : α → α → Ordering) [Std.TransCmp major] [Std.TransCmp minor]
    (items : List α) :
    sortBy major (sortBy minor items) = sortBy (compareLex major minor) items := by
  obtain ⟨placed, rfl, hPlaced⟩ := exists_placed items
  have hMajor := transCmp_comap major (Prod.fst : α × Nat → α)
  have hMinor := transCmp_comap minor (Prod.fst : α × Nat → α)
  have hBoth := transCmp_comap (compareLex major minor) (Prod.fst : α × Nat → α)
  have hSorted := sortBy_pairwise_of_transCmp (fun a b => major a.1 b.1)
    (sortBy_pairwise_of_transCmp (fun a b => minor a.1 b.1) hPlaced)
  rw [sortBy_map, sortBy_map, sortBy_map]
  apply congrArg (List.map Prod.fst)
  refine eq_sortBy_of_pairwise (fun _ _ => Nat.lt_asymm) hPlaced
    ((List.mergeSort_perm _ _).trans (List.mergeSort_perm _ _)) (hSorted.imp ?_)
  rintro a b (hLess | ⟨hEqual, hLess | ⟨hEqual', hBefore⟩⟩)
  · exact .inl (by simp [compareLex, hLess])
  · exact .inl (by simp [compareLex, hEqual, hLess])
  · exact .inr ⟨compareLex_eq_eq.mpr ⟨hEqual, hEqual'⟩, hBefore⟩

end DocQuery.Sequence
