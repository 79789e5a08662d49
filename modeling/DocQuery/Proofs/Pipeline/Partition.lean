import Mathlib
import DocQuery.Proofs.Pipeline.Stage
import DocQuery.Proofs.Sequence.Partition

/-!
Grouping as a partition of the rows that have a key. Every such row is in one group only, that of its
key, and the rows of a group stand as they stood.
-/

namespace DocQuery.Stage

variable {c : Context}

def hasValue (c : Context) (e : Expr) (row : Row) : Bool := (valueOf c e row).toOption.isSome

/-- Whether an expression has a value for a row that equals a key. -/
def hasKey (c : Context) (e : Expr) (key : Value) (row : Row) : Bool :=
  (valueOf c e row).toOption.any fun v => c.compare v key == .eq

/-- A row has a key when its value comes out equal to it. -/
theorem hasKey_eq_true_iff {e : Expr} {key : Value} {row : Row} :
    hasKey c e key row = true ↔ ∃ v, valueOf c e row = .ok v ∧ c.compare v key = .eq := by
  rw [hasKey]
  cases valueOf c e row with
  | error error => simp [Except.toOption]
  | ok v => simp [Except.toOption]

/-- Groups of rows by an expression. -/
structure Partitions (c : Context) (e : Expr) (rows groups : List Row) : Prop where
  /-- No two groups have one key, and they are in the order of their keys. -/
  ascending : groups.Pairwise fun g h => c.compare g.id h.id = .lt
  /-- A group has members, and it is identified by the key of the first one. -/
  first : ∀ g ∈ groups, ∃ first rest, g.members = first :: rest ∧ valueOf c e first = .ok g.id
  /-- All members of a group have one key. -/
  keys : ∀ g ∈ groups, ∀ member ∈ g.members, ∃ v, valueOf c e member = .ok v ∧ c.compare v g.id = .eq
  /-- The members of a group are the rows with its key, unchanged and as they stood. -/
  members : ∀ g ∈ groups, g.members = rows.filter (hasKey c e g.id)
  /-- Every row with a key is in a group, and in no other one. -/
  whole : (groups.flatMap Row.members).Perm (rows.filter (hasValue c e))

/-- The rows that are left are those that have a value. -/
theorem map_evaluate_rows (e : Expr) (rows : List Row) :
    (evaluate (valueOf c e) rows).rows.map Prod.snd = rows.filter (hasValue c e) := by
  have hKept := filter_evaluate_rows (valueOf c e) (fun _ => true) rows
  simp only [List.filter_true, Option.any_true] at hKept
  exact hKept

/-- A group has all rows with its key. -/
theorem members_of_mem_groupBy {e : Expr} {rows : List Row} {g : Group Value Row}
    (hGroup : g ∈ Sequence.groupBy c.compare (evaluate (valueOf c e) rows).rows) :
    g.members = rows.filter (hasKey c e g.key) :=
  (Sequence.groupBy_members_eq_filter _ hGroup).trans
    (filter_evaluate_rows (valueOf c e) (fun v => c.compare v g.key == .eq) rows)

/-- Grouping partitions the rows that have a key. -/
theorem group_partitions (c : Context) (key : NamedExpr) (rows : List Row) :
    Partitions c key.expr rows (group c key rows).rows where
  ascending := by
    apply List.pairwise_map.mpr
    exact Sequence.groupBy_ascending _
  first := by
    intro row hRow
    obtain ⟨g, hGroup, rfl⟩ := List.mem_map.mp hRow
    obtain ⟨first, rest, hFirst, hMembers⟩ := Sequence.groupBy_first _ g hGroup
    exact ⟨first, rest, hMembers, (mem_evaluate_rows.mp hFirst).2⟩
  keys := by
    intro row hRow member hMember
    obtain ⟨g, hGroup, rfl⟩ := List.mem_map.mp hRow
    rw [groupRow, members_of_mem_groupBy hGroup, List.mem_filter] at hMember
    exact hasKey_eq_true_iff.mp hMember.2
  members := by
    intro row hRow
    obtain ⟨g, hGroup, rfl⟩ := List.mem_map.mp hRow
    exact members_of_mem_groupBy hGroup
  whole := by
    have hMembers : (group c key rows).rows.flatMap Row.members =
        (Sequence.groupBy c.compare (evaluate (valueOf c key.expr) rows).rows).flatMap Group.members := by
      rw [group, andThen, List.flatMap_map]
      rfl
    rw [hMembers, ← map_evaluate_rows]
    exact Sequence.groupBy_members_perm _

end DocQuery.Stage
