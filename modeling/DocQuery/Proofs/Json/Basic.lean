import Mathlib.Data.List.Induction
import Mathlib.Data.String.Basic
import DocQuery.Json.Basic

/-!
Documents that the notation can write, and the order of the members of their objects.
-/

namespace DocQuery.Json

/-- A document that the notation can write: its integers have 64 bits, with a sign or without, and its
other numbers are finite. -/
inductive InBounds : Json → Prop
  | null : InBounds null
  | bool (b : Bool) : InBounds (bool b)
  | integer {i : Int} (hLow : -9223372036854775808 ≤ i) (hHigh : i < 18446744073709551616) :
      InBounds (integer i)
  | float {n : Number} (hFinite : n.isFinite = true) : InBounds (float n)
  | string (s : String) : InBounds (string s)
  | array {items : List Json} (hItems : ∀ item ∈ items, InBounds item) : InBounds (array items)
  | object {members : List (String × Json)} (hMembers : ∀ member ∈ members, InBounds member.2) :
      InBounds (object members)

/-- A member with the last name is inserted at the end. -/
theorem insertMember_of_forall_lt {members : List (String × Json)} {member : String × Json}
    (hLast : ∀ other ∈ members, other.1 < member.1) :
    insertMember member members = members ++ [member] := by
  induction members with
  | nil => rfl
  | cons other rest ih =>
      rw [List.forall_mem_cons] at hLast
      rw [insertMember, if_pos hLast.1, ih hLast.2, List.cons_append]

/-- Members that are in order already stay as they are. -/
theorem sorted_of_ascending {members : List (String × Json)}
    (hAscending : (members.map Prod.fst).Pairwise (· < ·)) : sorted members = members := by
  induction members using List.reverseRecOn with
  | nil => rfl
  | append_singleton rest member ih =>
      rw [List.map_append, List.pairwise_append] at hAscending
      obtain ⟨hRest, _, hLast⟩ := hAscending
      have hLess : ∀ other ∈ rest, other.1 < member.1 := fun other hMem =>
        hLast other.1 (List.mem_map_of_mem hMem) member.1 (List.mem_singleton_self _)
      rw [sorted, List.foldl_append, List.foldl_cons, List.foldl_nil]
      exact (congrArg (insertMember member) (ih hRest)).trans (insertMember_of_forall_lt hLess)

end DocQuery.Json
