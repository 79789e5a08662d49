import Mathlib
import DocQuery.Proofs.Sequence.Sort

/-!
Grouping by keys as a partition. Joining looks at neighbours only, but among sorted things all that have
equal keys are neighbours: the keys of the groups go up strictly, and a group holds everything whose key
equals its own, as it stood.
-/

namespace DocQuery.Sequence

variable {α κ : Type} {order : κ → κ → Ordering}

/-- The first group begins with the first thing and has its key; the other groups are those of the rest. -/
theorem exists_joinEqual_cons (order : κ → κ → Ordering) (key : κ) (item : α) (rest : List (κ × α)) :
    ∃ members groups, joinEqual order ((key, item) :: rest) = ⟨key, item :: members⟩ :: groups ∧
      ∀ g ∈ groups, g ∈ joinEqual order rest := by
  rw [joinEqual]
  cases joinEqual order rest with
  | nil => exact ⟨[], [], rfl, fun _ hGroup => hGroup⟩
  | cons group groups =>
      dsimp only
      split
      · exact ⟨group.members, groups, rfl, fun _ hGroup => List.mem_cons_of_mem group hGroup⟩
      · exact ⟨[], group :: groups, rfl, fun _ hGroup => hGroup⟩

/-- The key of a group is that of its first member. -/
theorem joinEqual_first (items : List (κ × α)) :
    ∀ g ∈ joinEqual order items, ∃ first rest, (g.key, first) ∈ items ∧ g.members = first :: rest := by
  induction items with
  | nil => exact nofun
  | cons item rest ih =>
      obtain ⟨key, member⟩ := item
      obtain ⟨members, groups, hGroups, hRest⟩ := exists_joinEqual_cons order key member rest
      intro g hGroup
      rw [hGroups] at hGroup
      rcases List.mem_cons.mp hGroup with rfl | hGroup
      · exact ⟨member, members, List.mem_cons_self, rfl⟩
      · obtain ⟨first, others, hFirst, hMembers⟩ := ih g (hRest g hGroup)
        exact ⟨first, others, List.mem_cons_of_mem _ hFirst, hMembers⟩

theorem groupBy_first (items : List (κ × α)) :
    ∀ g ∈ groupBy order items, ∃ first rest, (g.key, first) ∈ items ∧ g.members = first :: rest := by
  intro g hGroup
  obtain ⟨first, rest, hFirst, hMembers⟩ := joinEqual_first _ g hGroup
  exact ⟨first, rest, List.mem_mergeSort.mp hFirst, hMembers⟩

variable [Std.TransCmp order]

/-- The keys of groups ascend when those of their members do not descend. -/
theorem joinEqual_ascending {items : List (κ × α)}
    (hItems : items.Pairwise fun a b => order a.1 b.1 ≠ .gt) :
    (joinEqual order items).Pairwise fun g h => order g.key h.key = .lt := by
  induction items with
  | nil => exact .nil
  | cons item rest ih =>
      obtain ⟨key, member⟩ := item
      obtain ⟨hFirst, hRest⟩ := List.pairwise_cons.mp hItems
      have hLater := ih hRest
      rw [joinEqual]
      cases rest with
      | nil => exact List.pairwise_singleton _ _
      | cons next others =>
          obtain ⟨nextKey, nextMember⟩ := next
          obtain ⟨members, groups, hGroups, -⟩ :=
            exists_joinEqual_cons order nextKey nextMember others
          have hNotDown : order key nextKey ≠ .gt := hFirst _ List.mem_cons_self
          rw [hGroups] at hLater ⊢
          obtain ⟨hAbove, hGoUp⟩ := List.pairwise_cons.mp hLater
          dsimp only
          -- The next key is the key of the next group: it is joined, or all groups lie above.
          split
          · next hEqual =>
              apply List.pairwise_cons.mpr
              constructor
              · intro h hGroup
                exact Std.TransCmp.lt_of_eq_of_lt hEqual (hAbove h hGroup)
              · exact hGoUp
          · next hNotEqual =>
              have hLess : order key nextKey = .lt := by
                cases hOrder : order key nextKey with
                | lt => rfl
                | eq => exact absurd hOrder hNotEqual
                | gt => exact absurd hOrder hNotDown
              apply List.pairwise_cons.mpr
              constructor
              · intro h hGroup
                rcases List.mem_cons.mp hGroup with rfl | hGroup
                · exact hLess
                · exact Std.TransCmp.lt_trans hLess (hAbove h hGroup)
              · exact hLater

/-- Among groups whose keys go up, those with a key equal to that of a group are the group alone. -/
theorem filter_entries_of_ascending {groups : List (Group κ α)}
    (hGroups : groups.Pairwise fun g h => order g.key h.key = .lt) {g : Group κ α} (hGroup : g ∈ groups) :
    (groups.flatMap Group.entries).filter (fun entry => order entry.1 g.key == .eq) = g.entries := by
  obtain ⟨before, after, rfl⟩ := List.append_of_mem hGroup
  obtain ⟨-, hAfter, hBetween⟩ := List.pairwise_append.mp hGroups
  have others {some : List (Group κ α)} (hSome : ∀ h ∈ some, order h.key g.key ≠ .eq) :
      (some.flatMap Group.entries).filter (fun entry => order entry.1 g.key == .eq) = [] := by
    apply List.filter_eq_nil_iff.mpr
    intro entry hEntry
    obtain ⟨h, hMem, hEntry⟩ := List.mem_flatMap.mp hEntry
    obtain ⟨member, -, rfl⟩ := List.mem_map.mp hEntry
    simpa using hSome h hMem
  have hBefore : ∀ h ∈ before, order h.key g.key ≠ .eq := by
    intro h hMem
    simp [hBetween h hMem g List.mem_cons_self]
  have hBehind : ∀ h ∈ after, order h.key g.key ≠ .eq := by
    intro h hMem
    rw [swap_of_transCmp order h.key g.key, (List.pairwise_cons.mp hAfter).1 h hMem]
    simp
  have hOwn : g.entries.filter (fun entry => order entry.1 g.key == .eq) = g.entries := by
    apply List.filter_eq_self.mpr
    intro entry hEntry
    obtain ⟨member, -, rfl⟩ := List.mem_map.mp hEntry
    have hSelf : order g.key g.key = .eq := Std.ReflCmp.compare_self
    simp [hSelf]
  rw [List.flatMap_append, List.flatMap_cons, List.filter_append, List.filter_append, others hBefore,
    others hBehind, hOwn, List.nil_append, List.append_nil]

/-- Things under equal keys are selected alike by a key. -/
theorem filter_relabelled {entries items : List (κ × α)} (key : κ)
    (h : List.Forall₂ (Relabelled order) entries items) :
    (entries.filter fun entry => order entry.1 key == .eq).map Prod.snd =
      (items.filter fun item => order item.1 key == .eq).map Prod.snd := by
  induction h with
  | nil => rfl
  | @cons entry item _ _ hHead _ ih =>
      have hSame : (order entry.1 key == .eq) = (order item.1 key == .eq) := by
        rw [Std.TransCmp.congr_left hHead.2]
      rw [List.filter_cons, List.filter_cons, hSame]
      split
      · rw [List.map_cons, List.map_cons, ih, hHead.1]
      · exact ih

theorem sortBy_not_gt (items : List (κ × α)) :
    (sortBy (fun a b => order a.1 b.1) items).Pairwise fun a b => order a.1 b.1 ≠ .gt := by
  have hOrder := transCmp_comap order (Prod.fst : κ × α → κ)
  exact sortBy_ascends items

/-- The keys of groups ascend. -/
theorem groupBy_ascending (items : List (κ × α)) :
    (groupBy order items).Pairwise fun g h => order g.key h.key = .lt :=
  joinEqual_ascending (sortBy_not_gt items)

/-- Sorting leaves things that are all equal as they stand. -/
theorem sortBy_of_eq {order : α → α → Ordering} {items : List α}
    (h : ∀ a ∈ items, ∀ b ∈ items, order a b = .eq) : sortBy order items = items := by
  apply List.mergeSort_of_pairwise
  apply List.pairwise_of_forall_mem_list
  intro a ha b hb
  simp [h a ha b hb]

/-- The members of a group are all things whose key equals its own, as they stood. -/
theorem groupBy_members_eq_filter (items : List (κ × α)) {g : Group κ α}
    (hGroup : g ∈ groupBy order items) :
    g.members = (items.filter fun item => order item.1 g.key == .eq).map Prod.snd := by
  have hOrder := transCmp_comap order (Prod.fst : κ × α → κ)
  have hEqual : ∀ a ∈ items.filter (fun item => order item.1 g.key == .eq),
      ∀ b ∈ items.filter (fun item => order item.1 g.key == .eq), order a.1 b.1 = .eq := by
    intro a ha b hb
    have hLeft : order a.1 g.key = .eq := by simpa using (List.mem_filter.mp ha).2
    have hRight : order b.1 g.key = .eq := by simpa using (List.mem_filter.mp hb).2
    exact Std.TransCmp.eq_trans hLeft (Std.OrientedCmp.eq_symm hRight)
  calc g.members
      = g.entries.map Prod.snd := by simp [Group.entries]
    _ = (((groupBy order items).flatMap Group.entries).filter fun entry =>
          order entry.1 g.key == .eq).map Prod.snd := by
        rw [filter_entries_of_ascending (groupBy_ascending items) hGroup]
    _ = ((sortBy (fun a b => order a.1 b.1) items).filter fun item =>
          order item.1 g.key == .eq).map Prod.snd :=
        filter_relabelled g.key (groupBy_relabelled items)
    _ = (items.filter fun item => order item.1 g.key == .eq).map Prod.snd := by
        rw [filter_sortBy, sortBy_of_eq hEqual]

/-- Every thing is in one group, once. -/
theorem groupBy_members_perm (items : List (κ × α)) :
    ((groupBy order items).flatMap Group.members).Perm (items.map Prod.snd) := by
  rw [groupBy_members]
  exact (List.mergeSort_perm _ _).map Prod.snd

end DocQuery.Sequence
