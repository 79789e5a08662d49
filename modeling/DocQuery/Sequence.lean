/-!
Sorting, grouping and thinning out lists by an order.
-/

namespace DocQuery

variable {α κ : Type}

/-- Things that share a key. -/
structure Group (κ α : Type) where
  key : κ
  members : List α

namespace Sequence

/-- Sorts by an order; what the order does not tell apart stays as it was. -/
def sortBy (order : α → α → Ordering) (items : List α) : List α :=
  items.mergeSort fun a b => order a b != .gt

/-- Joins neighbours with equal keys. The key of a group is that of its first member. -/
def joinEqual (order : κ → κ → Ordering) : List (κ × α) → List (Group κ α)
  | [] => []
  | (key, item) :: rest =>
    match joinEqual order rest with
    | [] => [⟨key, [item]⟩]
    | group :: groups =>
      if order key group.key = .eq then ⟨key, item :: group.members⟩ :: groups
      else ⟨key, [item]⟩ :: group :: groups

/-- Groups things by their keys. The groups are sorted, and within a group things stay as they were. -/
def groupBy (order : κ → κ → Ordering) (items : List (κ × α)) : List (Group κ α) :=
  joinEqual order (sortBy (fun a b => order a.1 b.1) items)

/-- Keeps the items that equal none of those seen before. -/
def distinctFrom (order : α → α → Ordering) (seen : List α) : List α → List α
  | [] => []
  | item :: rest =>
    if seen.any fun old => order old item == .eq then distinctFrom order seen rest
    else item :: distinctFrom order (item :: seen) rest

/-- Keeps the first of all items that are equal. -/
def distinctBy (order : α → α → Ordering) (items : List α) : List α := distinctFrom order [] items

end Sequence

end DocQuery
