import Mathlib
import DocQuery.Proofs.Sequence.Partition

/-!
Thinning out a list by an order keeps the first of all things that the order does not tell apart. Sorting is
stable, so that it brings the same thing to the front of those equal to it: thinning out and sorting may
change places, and what is left of a sorted list are the first things of its runs.
-/

namespace DocQuery.Sequence

variable {α : Type} {order : α → α → Ordering} {seen items : List α} {v : α}

/-- The first things of the runs of neighbours that the order does not tell apart. -/
def firstOfRuns (order : α → α → Ordering) (items : List α) : List α :=
  (items.splitBy fun a b => order a b == .eq).filterMap List.head?

/-- What is kept comes in the order in which it was. -/
theorem distinctFrom_sublist (seen items : List α) :
    (distinctFrom order seen items).Sublist items := by
  induction items generalizing seen with
  | nil => exact List.Sublist.slnil
  | cons item rest ih =>
      rw [distinctFrom]
      split
      · exact (ih seen).cons item
      · exact (ih (item :: seen)).cons_cons item

/-- What is kept equals nothing that was seen. -/
theorem ne_eq_of_mem_distinctFrom (h : v ∈ distinctFrom order seen items) :
    ∀ old ∈ seen, order old v ≠ .eq := by
  induction items generalizing seen with
  | nil => cases h
  | cons item rest ih =>
      rw [distinctFrom] at h
      split at h
      · exact ih h
      · next hNew =>
          rcases List.mem_cons.mp h with rfl | hLater
          · intro old hOld hEqual
            exact hNew (List.any_eq_true.mpr ⟨old, hOld, beq_iff_eq.mpr hEqual⟩)
          · intro old hOld
            exact ih hLater old (List.mem_cons_of_mem item hOld)

/-- No two things that are kept are equal. -/
theorem distinctFrom_pairwise (seen items : List α) :
    (distinctFrom order seen items).Pairwise fun a b => order a b ≠ .eq := by
  induction items generalizing seen with
  | nil => exact .nil
  | cons item rest ih =>
      rw [distinctFrom]
      split
      · exact ih seen
      · apply List.Pairwise.cons
        · intro b hLater
          exact ne_eq_of_mem_distinctFrom hLater item List.mem_cons_self
        · exact ih (item :: seen)

theorem distinctBy_sublist (items : List α) : (distinctBy order items).Sublist items :=
  distinctFrom_sublist [] items

theorem distinctBy_pairwise (items : List α) :
    (distinctBy order items).Pairwise fun a b => order a b ≠ .eq :=
  distinctFrom_pairwise [] items

/-- Without repetitions, what is sorted ascends. -/
theorem distinctBy_ascending_of_sorted (hSorted : items.Pairwise fun a b => order a b ≠ .gt) :
    (distinctBy order items).Pairwise fun a b => order a b = .lt := by
  apply ((hSorted.sublist (distinctBy_sublist items)).and (distinctBy_pairwise items)).imp
  rintro a b ⟨hNotGreater, hApart⟩
  cases hOrder : order a b with
  | lt => rfl
  | eq => exact absurd hOrder hApart
  | gt => exact absurd hOrder hNotGreater

/-- Things that equal one of those seen before are passed over. -/
theorem distinctFrom_append_of_seen (h : ∀ v ∈ items, ∃ old ∈ seen, order old v = .eq) (rest : List α) :
    distinctFrom order seen (items ++ rest) = distinctFrom order seen rest := by
  induction items with
  | nil => rfl
  | cons item items ih =>
      obtain ⟨⟨old, hOld, hEqual⟩, hOthers⟩ := List.forall_mem_cons.mp h
      rw [List.cons_append, distinctFrom, if_pos, ih hOthers]
      exact List.any_eq_true.mpr ⟨old, hOld, beq_iff_eq.mpr hEqual⟩

variable [Std.TransCmp order]

/-- Kept is what nothing seen before equals and what stands first among its equals. -/
theorem mem_distinctFrom_iff : v ∈ distinctFrom order seen items ↔
    (∀ old ∈ seen, order old v ≠ .eq) ∧ items.find? (fun w => order w v == .eq) = some v := by
  induction items generalizing seen with
  | nil => simp [distinctFrom]
  | cons item rest ih =>
      rw [distinctFrom]
      cases hSame : order item v == .eq with
      | true =>
          rw [beq_iff_eq] at hSame
          rw [List.find?_cons_of_pos (by simp [hSame])]
          split
          · next hOld =>
              obtain ⟨old, hMem, hEqual⟩ := List.any_eq_true.mp hOld
              have hSeen : order old v = .eq := Std.TransCmp.eq_trans (beq_iff_eq.mp hEqual) hSame
              rw [ih]
              exact iff_of_false (fun h => h.1 old hMem hSeen) (fun h => h.1 old hMem hSeen)
          · next hNew =>
              rw [List.mem_cons, ih, Option.some.injEq, eq_comm]
              constructor
              · rintro (rfl | ⟨hSeen, -⟩)
                · refine ⟨fun old hOld hEqual => hNew ?_, rfl⟩
                  exact List.any_eq_true.mpr ⟨old, hOld, beq_iff_eq.mpr hEqual⟩
                · exact absurd hSame (hSeen item List.mem_cons_self)
              · rintro ⟨-, rfl⟩
                exact .inl rfl
      | false =>
          have hOther : v ≠ item := by
            rintro rfl
            have hSelf : order v v = .eq := Std.ReflCmp.compare_self
            simp [hSelf] at hSame
          rw [List.find?_cons_of_neg (by simp [hSame])]
          split
          · exact ih
          · have hApart : order item v ≠ .eq := beq_eq_false_iff_ne.mp hSame
            rw [List.mem_cons, ih, or_iff_right hOther, List.forall_mem_cons, and_iff_right hApart]

theorem mem_distinctBy_iff :
    v ∈ distinctBy order items ↔ items.find? (fun w => order w v == .eq) = some v := by
  rw [distinctBy, mem_distinctFrom_iff, and_iff_right (List.forall_mem_nil _)]

/-- Sorting does not change which thing stands first among equal ones. -/
theorem find?_sortBy (items : List α) (v : α) :
    (sortBy order items).find? (fun w => order w v == .eq) = items.find? fun w => order w v == .eq := by
  have hEqual : ∀ a ∈ items.filter (fun w => order w v == .eq),
      ∀ b ∈ items.filter (fun w => order w v == .eq), order a b = .eq := by
    intro a hA b hB
    have hLeft := beq_iff_eq.mp (List.mem_filter.mp hA).2
    have hRight := beq_iff_eq.mp (List.mem_filter.mp hB).2
    exact Std.TransCmp.eq_trans hLeft (Std.OrientedCmp.eq_symm hRight)
  rw [← List.head?_filter, ← List.head?_filter, filter_sortBy, sortBy_of_eq hEqual]

/-- Strictly ascending lists of the same things are the same. -/
theorem eq_of_ascending {items others : List α} (hItems : items.Pairwise fun a b => order a b = .lt)
    (hOthers : others.Pairwise fun a b => order a b = .lt) (hMem : ∀ v, v ∈ items ↔ v ∈ others) :
    items = others := by
  have hAsymm (a b : α) (hLess : order a b = .lt) : order b a ≠ .lt := by
    rw [swap_of_transCmp order, hLess]
    exact nofun
  have hIrrefl : Std.Irrefl fun a b => order a b = .lt := ⟨fun a h => hAsymm a a h h⟩
  have hAntisymm : Std.Antisymm fun a b => order a b = .lt := ⟨fun a b h h' => absurd h' (hAsymm a b h)⟩
  exact hItems.eq_of_mem_iff hOthers hMem

/-- Things no two of which are equal ascend when they are sorted. -/
theorem sortBy_ascending_of_distinct (hItems : items.Pairwise fun a b => order a b ≠ .eq) :
    (sortBy order items).Pairwise fun a b => order a b = .lt := by
  apply (sortBy_pairwise_of_transCmp order hItems).imp
  rintro a b (hLess | ⟨hEqual, hApart⟩)
  · exact hLess
  · exact absurd hEqual hApart

/-- Thinning out and sorting may change places. -/
theorem sortBy_distinctBy (items : List α) :
    sortBy order (distinctBy order items) = distinctBy order (sortBy order items) := by
  apply eq_of_ascending (sortBy_ascending_of_distinct (distinctBy_pairwise items))
    (distinctBy_ascending_of_sorted (sortBy_ascends items))
  intro v
  rw [sortBy, List.mem_mergeSort, mem_distinctBy_iff, mem_distinctBy_iff, find?_sortBy]

/-! Among sorted things the equal ones are neighbours, so that a run holds all of them. -/

/-- In a run of neighbours that are equal all equal the first. -/
theorem eq_of_isChain {first : α} {more : List α}
    (hRun : (first :: more).IsChain fun a b => (order a b == .eq) = true) :
    ∀ v ∈ more, order first v = .eq := by
  induction more generalizing first with
  | nil => exact List.forall_mem_nil _
  | cons next more ih =>
      obtain ⟨hNext, hMore⟩ := List.isChain_cons_cons.mp hRun
      have hEqual : order first next = .eq := beq_iff_eq.mp hNext
      refine List.forall_mem_cons.mpr ⟨hEqual, fun v hv => ?_⟩
      exact Std.TransCmp.eq_trans hEqual (ih hMore v hv)

/-- Between two runs of a sorted list the order goes up, and it stays up behind them. -/
theorem lt_of_apart {first : α} {more next : List α} {rest : List (List α)}
    (hSorted : (first :: more ++ (next :: rest).flatten).Pairwise fun a b => order a b ≠ .gt)
    (hEqual : ∀ v ∈ more, order first v = .eq) (hNext : next ≠ [])
    (hApart : order ((first :: more).getLast (List.cons_ne_nil _ _)) (next.head hNext) ≠ .eq) :
    ∀ v ∈ (next :: rest).flatten, order first v = .lt := by
  obtain ⟨b, others, rfl⟩ := List.exists_cons_of_ne_nil hNext
  rw [List.head_cons] at hApart
  rw [List.flatten_cons] at hSorted ⊢
  obtain ⟨-, hBehind, hAcross⟩ := List.pairwise_append.mp hSorted
  have hFirst := hAcross first List.mem_cons_self
  have hLess : order first b = .lt := by
    have hLast : order first ((first :: more).getLast (List.cons_ne_nil _ _)) = .eq := by
      rcases List.mem_cons.mp (List.getLast_mem (List.cons_ne_nil first more)) with hSelf | hMore
      · rw [hSelf]
        exact Std.ReflCmp.compare_self
      · exact hEqual _ hMore
    cases hOrder : order first b with
    | lt => rfl
    | eq => exact absurd (Std.TransCmp.eq_trans (Std.OrientedCmp.eq_symm hLast) hOrder) hApart
    | gt => exact absurd hOrder (hFirst b List.mem_cons_self)
  rw [List.cons_append] at hBehind ⊢
  refine List.forall_mem_cons.mpr ⟨hLess, fun v hv => ?_⟩
  have hLater := (List.pairwise_cons.mp hBehind).1 v hv
  exact (composes_of_transCmp order first b v (hFirst b List.mem_cons_self) hLater).2 (.inl hLess)

/-- Run by run, the first thing is kept and the others are passed over. -/
theorem distinctFrom_flatten {runs : List (List α)}
    (hSorted : runs.flatten.Pairwise fun a b => order a b ≠ .gt) (hNonempty : [] ∉ runs)
    (hRuns : ∀ run ∈ runs, run.IsChain fun a b => (order a b == .eq) = true)
    (hApart : runs.IsChain fun r s => ∃ hr hs, (order (r.getLast hr) (s.head hs) == .eq) = false)
    (hSeen : ∀ old ∈ seen, ∀ v ∈ runs.flatten, order old v ≠ .eq) :
    distinctFrom order seen runs.flatten = runs.filterMap List.head? := by
  induction runs generalizing seen with
  | nil => rfl
  | cons run rest ih =>
      obtain ⟨hRun, hOthers⟩ := List.forall_mem_cons.mp hRuns
      have hFull : run ≠ [] := by
        rintro rfl
        exact hNonempty List.mem_cons_self
      have hRest : [] ∉ rest := fun hMem => hNonempty (List.mem_cons_of_mem run hMem)
      obtain ⟨first, more, rfl⟩ := List.exists_cons_of_ne_nil hFull
      rw [List.flatten_cons] at hSorted hSeen ⊢
      have hEqual : ∀ v ∈ more, order first v = .eq := eq_of_isChain hRun
      have hLater : ∀ v ∈ rest.flatten, order first v ≠ .eq := by
        cases rest with
        | nil => exact List.forall_mem_nil _
        | cons next rest =>
            obtain ⟨_, hNext, hEnds⟩ := (List.isChain_cons_cons.mp hApart).1
            intro v hv
            rw [lt_of_apart hSorted hEqual hNext (beq_eq_false_iff_ne.mp hEnds) v hv]
            exact nofun
      have hNew : ¬(seen.any fun old => order old first == .eq) = true := by
        intro hOld
        obtain ⟨old, hMem, hSame⟩ := List.any_eq_true.mp hOld
        exact hSeen old hMem first (by simp) (beq_iff_eq.mp hSame)
      have hPassed : ∀ v ∈ more, ∃ old ∈ first :: seen, order old v = .eq := by
        intro v hv
        exact ⟨first, List.mem_cons_self, hEqual v hv⟩
      have hSeenNow : ∀ old ∈ first :: seen, ∀ v ∈ rest.flatten, order old v ≠ .eq := by
        intro old hMem v hv
        rcases List.mem_cons.mp hMem with rfl | hOld
        · exact hLater v hv
        · exact hSeen old hOld v (List.mem_append_right _ hv)
      rw [List.cons_append, distinctFrom, if_neg hNew, distinctFrom_append_of_seen hPassed,
        ih (List.pairwise_append.mp hSorted).2.1 hRest hOthers hApart.tail hSeenNow]
      rfl

/-- What is left of a sorted list are the first things of its runs. -/
theorem distinctBy_of_sorted (hSorted : items.Pairwise fun a b => order a b ≠ .gt) :
    distinctBy order items = firstOfRuns order items := by
  have hItems := List.flatten_splitBy (fun a b => order a b == .eq) items
  have hApart := List.isChain_getLast_head_splitBy (fun a b => order a b == .eq) items
  have hRuns := distinctFrom_flatten (hItems.symm ▸ hSorted) (List.nil_notMem_splitBy _ items)
    (fun _ hRun => List.isChain_of_mem_splitBy hRun) hApart (List.forall_mem_nil _)
  rwa [hItems] at hRuns

end DocQuery.Sequence
