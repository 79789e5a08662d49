import DocQuery.Sequence
import DocQuery.Proofs.Ordering
import Mathlib.Data.List.Forall2

/-!
Grouping a list by keys. Joining neighbours neither loses nor moves a thing, and every thing ends up
under a key equal to its own, because equality of keys passes along the neighbours.
-/

namespace DocQuery

variable {α κ : Type}

/-- The members of a group, each under the key of the group. -/
def Group.entries (g : Group κ α) : List (κ × α) := g.members.map fun member => (g.key, member)

namespace Sequence

/-- The places of things go up. -/
theorem pairwise_zipIdx (items : List α) : items.zipIdx.Pairwise fun a b => a.2 < b.2 := by
  rw [← List.pairwise_map, List.zipIdx_map_snd]
  exact List.pairwise_lt_range'

variable {order : κ → κ → Ordering}

/-- A thing that has kept its place under a key that equals its own. -/
def Relabelled (order : κ → κ → Ordering) (entry item : κ × α) : Prop :=
  entry.2 = item.2 ∧ order entry.1 item.1 = .eq

/-- The key of a group may be exchanged for an equal one. -/
theorem relabelled_of_key_eq [Std.TransCmp order] {key old : κ} (hKey : order key old = .eq)
    (members : List α) (later items : List (κ × α))
    (h : List.Forall₂ (Relabelled order) (members.map (fun m => (old, m)) ++ later) items) :
    List.Forall₂ (Relabelled order) (members.map (fun m => (key, m)) ++ later) items := by
  induction members generalizing items with
  | nil => exact h
  | cons member members ih =>
      cases h with
      | cons hHead hTail =>
          exact .cons ⟨hHead.1, Std.TransCmp.eq_trans hKey hHead.2⟩ (ih _ hTail)

/-- Read group by group, the joined list is the list itself up to equal keys. -/
theorem joinEqual_relabelled [Std.TransCmp order] (items : List (κ × α)) :
    List.Forall₂ (Relabelled order) ((joinEqual order items).flatMap Group.entries) items := by
  induction items with
  | nil => exact .nil
  | cons item rest ih =>
      obtain ⟨key, member⟩ := item
      have hSelf : Relabelled order (key, member) (key, member) := ⟨rfl, Std.ReflCmp.compare_self⟩
      rw [joinEqual]
      cases hGroups : joinEqual order rest with
      | nil =>
          rw [hGroups] at ih
          exact .cons hSelf ih
      | cons group groups =>
          rw [hGroups, List.flatMap_cons] at ih
          dsimp only
          -- A joined group takes over the new key, so all its members change their label.
          split
          · next hKey =>
              rw [List.flatMap_cons]
              exact .cons hSelf (relabelled_of_key_eq hKey group.members _ rest ih)
          · rw [List.flatMap_cons, List.flatMap_cons]
            exact .cons hSelf ih

theorem joinEqual_members_ne_nil (items : List (κ × α)) :
    ∀ group ∈ joinEqual order items, group.members ≠ [] := by
  induction items with
  | nil => exact nofun
  | cons item rest ih =>
      obtain ⟨key, member⟩ := item
      rw [joinEqual]
      cases hGroups : joinEqual order rest with
      | nil => simp
      | cons group groups =>
          rw [hGroups, List.forall_mem_cons] at ih
          dsimp only
          split
          · exact List.forall_mem_cons.mpr ⟨List.cons_ne_nil _ _, ih.2⟩
          · exact List.forall_mem_cons.mpr ⟨List.cons_ne_nil _ _, List.forall_mem_cons.mpr ih⟩

theorem length_joinEqual_le (items : List (κ × α)) :
    (joinEqual order items).length ≤ items.length := by
  induction items with
  | nil => exact Nat.le_refl _
  | cons item rest ih =>
      obtain ⟨key, member⟩ := item
      rw [joinEqual]
      cases hGroups : joinEqual order rest with
      | nil => exact Nat.le_add_left 1 _
      | cons group groups =>
          rw [hGroups] at ih
          dsimp only
          split
          · exact Nat.le_succ_of_le ih
          · exact Nat.succ_le_succ ih

theorem joinEqual_ne_nil {items : List (κ × α)} (hItems : items ≠ []) :
    joinEqual order items ≠ [] := by
  cases items with
  | nil => exact absurd rfl hItems
  | cons item rest =>
      obtain ⟨key, member⟩ := item
      rw [joinEqual]
      cases joinEqual order rest with
      | nil => exact List.cons_ne_nil _ _
      | cons group groups =>
          dsimp only
          split <;> exact List.cons_ne_nil _ _

theorem length_groupBy_le (items : List (κ × α)) :
    (groupBy order items).length ≤ items.length :=
  Nat.le_trans (length_joinEqual_le _) (Nat.le_of_eq (List.length_mergeSort _))

theorem groupBy_ne_nil {items : List (κ × α)} (hItems : items ≠ []) :
    groupBy order items ≠ [] := by
  refine joinEqual_ne_nil fun hSorted => hItems (List.length_eq_zero_iff.mp ?_)
  rw [← List.length_mergeSort items, ← sortBy, hSorted, List.length_nil]

theorem groupBy_members_ne_nil (items : List (κ × α)) :
    ∀ group ∈ groupBy order items, group.members ≠ [] :=
  joinEqual_members_ne_nil _

/-- The groups read one after the other are the sorted things, up to equal keys. -/
theorem groupBy_relabelled [Std.TransCmp order] (items : List (κ × α)) :
    List.Forall₂ (Relabelled order) ((groupBy order items).flatMap Group.entries)
      (sortBy (fun a b => order a.1 b.1) items) :=
  joinEqual_relabelled _

/-- Grouping neither loses nor doubles a thing, nor does it move one among the sorted things. -/
theorem groupBy_members [Std.TransCmp order] (items : List (κ × α)) :
    (groupBy order items).flatMap Group.members =
      (sortBy (fun a b => order a.1 b.1) items).map Prod.snd := by
  have hEntries : (groupBy order items).flatMap Group.members =
      ((groupBy order items).flatMap Group.entries).map Prod.snd := by
    rw [List.map_flatMap]
    congr 1
    funext group
    rw [Group.entries, List.map_map]
    exact (List.map_id _).symm
  rw [hEntries, ← List.forall₂_eq_eq_eq, List.forall₂_map_left_iff, List.forall₂_map_right_iff]
  exact (groupBy_relabelled items).imp fun _ _ h => h.1

end Sequence
end DocQuery
