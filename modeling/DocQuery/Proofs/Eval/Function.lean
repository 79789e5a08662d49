import Mathlib
import DocQuery.Eval.Function
import DocQuery.Proofs.Eval.Comparison

/-!
Calls of functions with element-wise arguments. Such an argument is taken apart down to its leaves,
one position after the other, so the result is a nest of arrays: the leaf of the first position picks
the outer indices, that of the last one the inner indices, and at the bottom stand the results of
the overloads.
-/

namespace DocQuery

namespace Value

mutual

/-- What holds of an array as soon as it holds of its elements, and of all that is no array, holds of every
value. -/
theorem nest_induction {motive : Value → Prop}
    (array : ∀ items, (∀ item ∈ items, motive item) → motive (.array items))
    (leaf : ∀ v : Value, v.isArray = false → motive v) : ∀ v, motive v
  | .array items => array items (nest_induction_items array leaf items)
  | .null | .boolean _ | .number _ | .string _ | .date _ | .duration _ | .link _ | .object _
  | .listPair .. | .externalLink .. => leaf _ rfl

/-- What holds of every value holds of every item. -/
theorem nest_induction_items {motive : Value → Prop}
    (array : ∀ items, (∀ item ∈ items, motive item) → motive (.array items))
    (leaf : ∀ v : Value, v.isArray = false → motive v) : ∀ items : List Value, ∀ item ∈ items, motive item
  | [] => List.forall_mem_nil _
  | item :: rest =>
    List.forall_mem_cons.mpr ⟨nest_induction array leaf item, nest_induction_items array leaf rest⟩

end

/-- The part of a nest of arrays at a path of indices. -/
def at? : List Nat → Value → Option Value
  | [], v => some v
  | index :: path, .array items => items[index]?.bind (at? path)
  | _ :: _, _ => none

/-- A path that goes on leads through an array. -/
theorem at?_cons_eq_some_iff {index : Nat} {path : List Nat} {v part : Value} :
    at? (index :: path) v = some part ↔
      ∃ items item, v = .array items ∧ items[index]? = some item ∧ at? path item = some part := by
  cases v <;> simp [at?, Option.bind_eq_some_iff]

variable {g : Value → Outcome Value}

theorem mapLeaves_of_not_array {v : Value} (hFlat : v.isArray = false) : mapLeaves g v = g v := by
  cases v with
  | array items => cases hFlat
  | _ => rw [mapLeaves]; nofun

mutual

/-- Only leaves are handed on. -/
theorem mapLeaves_congr {g g' : Value → Outcome Value}
    (h : ∀ leaf : Value, leaf.isArray = false → g leaf = g' leaf) :
    ∀ v, mapLeaves g v = mapLeaves g' v
  | .array items => by rw [mapLeaves, mapLeaves, mapItems_congr h items]
  | .null | .boolean _ | .number _ | .string _ | .date _ | .duration _ | .link _ | .object _
  | .listPair .. | .externalLink .. => by
      rw [mapLeaves_of_not_array rfl, mapLeaves_of_not_array rfl]
      exact h _ rfl

theorem mapItems_congr {g g' : Value → Outcome Value}
    (h : ∀ leaf : Value, leaf.isArray = false → g leaf = g' leaf) :
    ∀ items, mapItems g items = mapItems g' items
  | [] => rfl
  | item :: rest => by rw [mapItems, mapItems, mapLeaves_congr h item, mapItems_congr h rest]

end

end Value

namespace Function

variable {run : List Value → Outcome Value}

end Function
end DocQuery
