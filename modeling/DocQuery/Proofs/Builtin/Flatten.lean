import Mathlib
import DocQuery.Proofs.Eval.Function
import DocQuery.Proofs.Number.Whole

/-!
Arrays flattened by so many levels. The elements of the result are what is reached in that many steps down
the nest, in the order of their places, so that levels add up when an array is flattened again, and what is
no array stands in the same order however deep the arrays around it are.
-/

namespace DocQuery

namespace Value

/-! ### Parts in order -/

/-- A list of all picked parts of a nest of arrays, each once, from left to right: their paths ascend. -/
def PartsInOrder (v : Value) (picked : List Nat → Value → Prop) (parts : List Value) : Prop :=
  ∃ places : List (List Nat × Value), places.map Prod.snd = parts ∧
    places.Pairwise (fun here there => List.Lex (· < ·) here.1 there.1) ∧
    ∀ path part, (path, part) ∈ places ↔ v.at? path = some part ∧ picked path part

/-- A part is picked for itself, wherever it is, if it is no array. -/
def IsLeaf (_ : List Nat) (part : Value) : Prop := part.isArray = false

/-- What is reached in so many steps down a nest of arrays, or in fewer where the nest ends. -/
def Reached (steps : Nat) (path : List Nat) (part : Value) : Prop :=
  path.length ≤ steps ∧ (part.isArray = true → path.length = steps)

/-- No array lies deeper in a value than so many steps. -/
def NestedWithin (steps : Nat) (v : Value) : Prop :=
  ∀ path part, v.at? path = some part → part.isArray = true → path.length ≤ steps

/-- Only the empty path leads into what is no array. -/
theorem at?_eq_some_iff_of_not_array {v part : Value} {path : List Nat} (hFlat : v.isArray = false) :
    v.at? path = some part ↔ path = [] ∧ part = v := by
  cases path with
  | nil => simp [at?, eq_comm]
  | cons index path =>
      refine iff_of_false (fun h => ?_) (fun h => absurd h.1 (List.cons_ne_nil _ _))
      obtain ⟨_, _, rfl, -⟩ := at?_cons_eq_some_iff.mp h
      cases hFlat

namespace PartsInOrder

variable {v : Value} {picked picked' : List Nat → Value → Prop} {parts : List Value}

/-- Parts that are picked in another way, but picked alike, stand in the same order. -/
theorem congr (h : PartsInOrder v picked parts)
    (hPicked : ∀ path part, v.at? path = some part → (picked path part ↔ picked' path part)) :
    PartsInOrder v picked' parts := by
  obtain ⟨places, hParts, hOrder, hPlaces⟩ := h
  refine ⟨places, hParts, hOrder, fun path part => ?_⟩
  rw [hPlaces]
  exact and_congr_right (hPicked path part)

/-- A value is the only picked part of itself if nothing below it is picked. -/
theorem self (h : ∀ path part, v.at? path = some part → (picked path part ↔ path = [])) :
    PartsInOrder v picked [v] := by
  refine ⟨[([], v)], rfl, List.pairwise_singleton _ _, fun path part => ?_⟩
  rw [List.mem_singleton, Prod.mk.injEq]
  constructor
  · rintro ⟨rfl, rfl⟩
    exact ⟨rfl, (h [] part rfl).mpr rfl⟩
  · rintro ⟨hPart, hPicked⟩
    obtain rfl := (h path part hPart).mp hPicked
    exact ⟨rfl, (Option.some.inj hPart).symm⟩

theorem of_not_array (hFlat : v.isArray = false) (hPicked : picked [] v) : PartsInOrder v picked [v] := by
  refine self fun path part hPart => ?_
  obtain ⟨rfl, rfl⟩ := (at?_eq_some_iff_of_not_array hFlat).mp hPart
  exact iff_of_true hPicked rfl

/-- Every listed part has a place. -/
theorem exists_path (h : PartsInOrder v picked parts) {part : Value} (hMem : part ∈ parts) :
    ∃ path, v.at? path = some part ∧ picked path part := by
  obtain ⟨places, rfl, -, hPlaces⟩ := h
  obtain ⟨⟨path, part⟩, hPlace, rfl⟩ := List.mem_map.mp hMem
  exact ⟨path, (hPlaces path part).mp hPlace⟩

/-- The parts of an array are those of its elements, one element after the other. -/
theorem array {items : List Value} {partsOf : Value → List Value}
    (h : ∀ item ∈ items, PartsInOrder item picked (partsOf item)) :
    PartsInOrder (.array items) (fun path part => ∃ index rest, path = index :: rest ∧ picked rest part)
      (items.flatMap partsOf) := by
  choose! places hParts hOrder hPlaces using h
  have hItem {entry : Value × Nat} (hEntry : entry ∈ items.zipIdx) : entry.1 ∈ items :=
    List.mem_of_getElem? (List.mem_zipIdx_iff_getElem?.mp hEntry)
  refine ⟨items.zipIdx.flatMap fun entry => (places entry.1).map fun place => (entry.2 :: place.1, place.2),
    ?_, ?_, fun path part => ?_⟩
  · calc (items.zipIdx.flatMap fun entry =>
            (places entry.1).map fun place => (entry.2 :: place.1, place.2)).map Prod.snd
        = items.zipIdx.flatMap (partsOf ∘ Prod.fst) := by
          rw [List.map_flatMap]
          refine List.flatMap_congr fun entry hEntry => ?_
          rw [List.map_map, Function.comp_apply, ← hParts _ (hItem hEntry)]
          rfl
      _ = (items.zipIdx.map Prod.fst).flatMap partsOf := by
          rw [List.flatMap_map]
          rfl
      _ = items.flatMap partsOf := by rw [List.zipIdx_map_fst]
  · rw [List.pairwise_flatMap]
    refine ⟨fun entry hEntry => ?_, ?_⟩
    · rw [List.pairwise_map]
      exact (hOrder _ (hItem hEntry)).imp fun hBefore => .cons hBefore
    · have hIndices : items.zipIdx.Pairwise fun here there => here.2 < there.2 := by
        rw [← @List.pairwise_map _ _ Prod.snd, List.zipIdx_map_snd]
        exact List.pairwise_lt_range'
      refine hIndices.imp fun hLess place hPlace other hOther => ?_
      obtain ⟨_, -, rfl⟩ := List.mem_map.mp hPlace
      obtain ⟨_, -, rfl⟩ := List.mem_map.mp hOther
      exact .rel hLess
  · constructor
    · intro hPlace
      obtain ⟨⟨item, index⟩, hEntry, hInner⟩ := List.mem_flatMap.mp hPlace
      obtain ⟨⟨rest, part⟩, hRest, hEq⟩ := List.mem_map.mp hInner
      cases hEq
      obtain ⟨hAt, hPicked⟩ := (hPlaces item (hItem hEntry) rest part).mp hRest
      have hGet := List.mem_zipIdx_iff_getElem?.mp hEntry
      exact ⟨at?_cons_eq_some_iff.mpr ⟨items, item, rfl, hGet, hAt⟩, index, rest, rfl, hPicked⟩
    · rintro ⟨hPart, index, rest, rfl, hPicked⟩
      obtain ⟨_, item, ⟨⟩, hGet, hAt⟩ := at?_cons_eq_some_iff.mp hPart
      have hRest := (hPlaces item (List.mem_of_getElem? hGet) rest part).mpr ⟨hAt, hPicked⟩
      exact List.mem_flatMap.mpr ⟨(item, index), List.mem_zipIdx_iff_getElem?.mpr hGet,
        List.mem_map_of_mem hRest⟩

end PartsInOrder

/-! ### Leaves -/

mutual

/-- The values in a nest of arrays that are no arrays. -/
def leaves : Value → List Value
  | .array items => leavesOf items
  | v => [v]

/-- The leaves of values, in order. -/
def leavesOf : List Value → List Value
  | [] => []
  | item :: rest => item.leaves ++ leavesOf rest

end

theorem leavesOf_eq_flatMap (items : List Value) : leavesOf items = items.flatMap leaves := by
  induction items with
  | nil => rfl
  | cons item rest ih => rw [leavesOf, ih, List.flatMap_cons]

theorem leaves_of_not_array {v : Value} (hFlat : v.isArray = false) : v.leaves = [v] := by
  cases v with
  | array items => cases hFlat
  | _ => rfl

/-- The leaves are listed in the order of their places. -/
theorem partsInOrder_leaves (v : Value) : PartsInOrder v IsLeaf v.leaves := by
  induction v using nest_induction with
  | array items ih =>
      rw [leaves, leavesOf_eq_flatMap]
      refine (PartsInOrder.array ih).congr fun path part hPart => ?_
      constructor
      · rintro ⟨_, _, -, hLeaf⟩
        exact hLeaf
      · intro hLeaf
        cases path with
        | nil =>
            cases hPart
            cases hLeaf
        | cons index rest => exact ⟨index, rest, rfl, hLeaf⟩
  | leaf v hFlat =>
      rw [leaves_of_not_array hFlat]
      exact PartsInOrder.of_not_array hFlat hFlat

end Value

namespace Builtin

open Value

variable {v : Value} {items : List Value}

/-- Items are flattened one by one. -/
theorem flatten_eq_flatMap (depth : Nat) (items : List Value) :
    flatten depth items = items.flatMap (flattenItem depth) := by
  induction items with
  | nil => rfl
  | cons item rest ih => rw [flatten, ih, List.flatMap_cons]

theorem flattenItem_array (depth : Nat) (items : List Value) :
    flattenItem (depth + 1) (.array items) = flatten depth items := rfl

theorem flattenItem_zero (v : Value) : flattenItem 0 v = [v] := by
  cases v <;> rfl

theorem flatten_zero (items : List Value) : flatten 0 items = items := by
  rw [flatten_eq_flatMap, List.flatMap_congr fun item _ => flattenItem_zero item]
  exact List.flatMap_singleton' items

theorem flattenItem_of_not_array (depth : Nat) (hFlat : v.isArray = false) : flattenItem depth v = [v] := by
  cases v with
  | array items => cases hFlat
  | _ => cases depth <;> rfl

theorem flatten_of_not_array (depth : Nat) (hFlat : ∀ item ∈ items, item.isArray = false) :
    flatten depth items = items := by
  rw [flatten_eq_flatMap,
    List.flatMap_congr fun item hItem => flattenItem_of_not_array depth (hFlat item hItem)]
  exact List.flatMap_singleton' items

/-- What takes the arrays of a nest apart level by level, and finds no levels in anything else, may start behind
as many levels as are flattened. -/
theorem flatMap_flattenItem {g : Nat → Value → List Value}
    (hArray : ∀ depth items, g (depth + 1) (.array items) = items.flatMap (g depth))
    (hLeaf : ∀ (depth : Nat) (v : Value), v.isArray = false → g depth v = g 0 v) (depth : Nat) (v : Value) :
    (flattenItem depth v).flatMap (g 0) = g depth v := by
  induction v using nest_induction generalizing depth with
  | array items ih =>
      cases depth with
      | zero => rw [flattenItem_zero, List.flatMap_singleton]
      | succ depth =>
          rw [flattenItem_array, flatten_eq_flatMap, List.flatMap_assoc, hArray]
          exact List.flatMap_congr fun item hItem => ih item hItem depth
  | leaf v hFlat => rw [flattenItem_of_not_array depth hFlat, List.flatMap_singleton, hLeaf depth v hFlat]

/-- What stands for a value, flattened further, is what stands for it at the sum of the depths. -/
theorem flatten_flattenItem (depth more : Nat) (v : Value) :
    flatten more (flattenItem depth v) = flattenItem (depth + more) v := by
  have hLevels := @flatMap_flattenItem (fun levels => flattenItem (levels + more))
    (fun levels items => by rw [Nat.add_right_comm, flattenItem_array, flatten_eq_flatMap])
    (fun levels v hFlat => by rw [flattenItem_of_not_array _ hFlat, flattenItem_of_not_array _ hFlat]) depth v
  rwa [Nat.zero_add, ← flatten_eq_flatMap] at hLevels

/-- Levels add up when an array is flattened again. -/
theorem flatten_add (depth more : Nat) (items : List Value) :
    flatten (depth + more) items = flatten more (flatten depth items) := by
  rw [← flattenItem_array, Nat.add_right_comm, ← flatten_flattenItem, flattenItem_array]

/-- Flattening moves no leaf past another one. -/
theorem leavesOf_flattenItem (depth : Nat) (v : Value) : leavesOf (flattenItem depth v) = v.leaves := by
  have hLeaves := @flatMap_flattenItem (fun _ => leaves)
    (fun _ items => by rw [leaves, leavesOf_eq_flatMap]) (fun _ _ _ => rfl) depth v
  rwa [← leavesOf_eq_flatMap] at hLeaves

/-- What stands for a value is what is reached from it. -/
theorem partsInOrder_flattenItem (depth : Nat) (v : Value) :
    PartsInOrder v (Reached depth) (flattenItem depth v) := by
  induction v using nest_induction generalizing depth with
  | array items ih =>
      cases depth with
      | zero =>
          refine PartsInOrder.self fun path part _ => ?_
          rw [Reached, Nat.le_zero, List.length_eq_zero_iff]
          exact and_iff_left_of_imp fun h _ => h
      | succ depth =>
          rw [flattenItem_array, flatten_eq_flatMap]
          refine (PartsInOrder.array fun item hItem => ih item hItem depth).congr fun path part hPart => ?_
          cases path with
          | nil =>
              -- The array itself is not reached: the steps that are left lead into it.
              cases hPart
              exact iff_of_false (by simp) fun h => absurd (h.2 rfl) (Nat.succ_ne_zero depth).symm
          | cons index rest => simp [Reached]
  | leaf v hFlat =>
      have hReached : Reached depth [] v := ⟨Nat.zero_le depth, fun hArray => by simp [hFlat] at hArray⟩
      rw [flattenItem_of_not_array depth hFlat]
      exact PartsInOrder.of_not_array hFlat hReached

/-- Levels below the deepest array make no difference. -/
theorem flatten_of_nestedWithin {limit levels : Nat} (hNested : NestedWithin limit (.array items))
    (hEnough : limit ≤ levels) : flatten levels items = flatten limit items := by
  have hFlat : ∀ item ∈ flatten limit items, item.isArray = false := by
    intro item hItem
    obtain ⟨path, hAt, -, hEnd⟩ := (partsInOrder_flattenItem (limit + 1) (.array items)).exists_path hItem
    rw [← Bool.not_eq_true]
    intro hArray
    have hReached : path.length = limit + 1 := hEnd hArray
    have hWithin : path.length ≤ limit := hNested path item hAt hArray
    omega
  obtain ⟨extra, rfl⟩ := Nat.exists_eq_add_of_le hEnough
  rw [flatten_add, flatten_of_not_array extra hFlat]

end Builtin

namespace Number

def largestCount : Nat := Nat.pow 2 64 - 1

/-- A number that denotes a count asks for so many things, up to the largest count. -/
theorem Denotes.toCount {n : Number} {count : Nat} (h : n.Denotes count) :
    n.toCount = min count largestCount := by
  obtain ⟨negative, fits, rfl, hSign⟩ := h.exists_finite
  cases negative with
  | false => rw [Number.toCount, Nat.mul_div_cancel _ Numeral.unitsPerOne_pos, Int.natAbs_natCast, largestCount]
  | true =>
      obtain rfl : count = 0 := Int.natCast_nonpos_iff.mp hSign
      exact (Nat.zero_min _).symm

end Number

namespace Context

open Builtin Value

variable {c : Context}

theorem call_flat (hTable : c.functions = Builtin.table) (xs : List Value) (n : Number) :
    c.call "flat" [.array xs, .number n] = .ok (.array (flatten n.toCount xs)) := by
  rw [call, hTable]
  rfl

/-- A call flattens what is left of an array by further levels, as long as it can count them or the array is not
nested deeper than calls can count. -/
theorem call_flat_flatten (hTable : c.functions = Builtin.table) {xs : List Value} {n : Number} {more : Nat}
    (hMore : n.Denotes more)
    (hLimit : more ≤ Number.largestCount ∨ NestedWithin Number.largestCount (.array xs)) (depth : Nat) :
    c.call "flat" [.array (flatten depth xs), .number n] = .ok (.array (flatten (depth + more) xs)) := by
  have hSame : flatten (depth + n.toCount) xs = flatten (depth + more) xs := by
    rw [hMore.toCount]
    rcases Nat.le_total more Number.largestCount with hLess | hGreater
    · rw [Nat.min_eq_left hLess]
    rw [Nat.min_eq_right hGreater]
    rcases hLimit with hLess | hNested
    · rw [Nat.le_antisymm hLess hGreater]
    · rw [flatten_of_nestedWithin hNested (Nat.le_add_left _ depth),
        flatten_of_nestedWithin hNested (hGreater.trans (Nat.le_add_left more depth))]
  rw [call_flat hTable, ← flatten_add, hSame]

/-- Flattening by some levels and then by more is flattening by all of them, as long as a call can count them or
the array is not nested deeper than calls can count. What is left is what is reached within the levels, and
the leaves stay the same ones in the same order. -/
theorem call_flat_levels (hTable : c.functions = Builtin.table) (xs : List Value) :
    (∀ depth more, flatten (depth + more) xs = flatten more (flatten depth xs)) ∧
    (∀ (depth more : Nat) (first second total : Number),
      first.Denotes depth → second.Denotes more → total.Denotes ↑(depth + more) →
      depth + more ≤ Number.largestCount ∨ NestedWithin Number.largestCount (.array xs) →
      c.call "flat" [.array xs, .number first] = .ok (.array (flatten depth xs)) ∧
      c.call "flat" [.array (flatten depth xs), .number second] = .ok (.array (flatten (depth + more) xs)) ∧
      c.call "flat" [.array xs, .number total] = .ok (.array (flatten (depth + more) xs))) ∧
    (∀ depth, PartsInOrder (.array xs) (Reached (depth + 1)) (flatten depth xs)) ∧
    ∃ leaves, PartsInOrder (.array xs) IsLeaf leaves ∧
      ∀ depth, PartsInOrder (.array (flatten depth xs)) IsLeaf leaves := by
  refine ⟨fun depth more => flatten_add depth more xs, ?_,
    fun depth => partsInOrder_flattenItem (depth + 1) (.array xs), leavesOf xs,
    partsInOrder_leaves (.array xs), fun depth => ?_⟩
  · intro depth more first second total hDepth hMore hTotal hLimit
    have hFirst := call_flat_flatten hTable hDepth (hLimit.imp_left fun h => by omega) 0
    have hSecond := call_flat_flatten hTable hMore (hLimit.imp_left fun h => by omega) depth
    have hBoth := call_flat_flatten hTable hTotal hLimit 0
    rw [flatten_zero, Nat.zero_add] at hFirst hBoth
    exact ⟨hFirst, hSecond, hBoth⟩
  · have hLeaves : leavesOf (flatten depth xs) = leavesOf xs := leavesOf_flattenItem (depth + 1) (.array xs)
    rw [← hLeaves]
    exact partsInOrder_leaves (.array (flatten depth xs))

/-- Texts at every depth down to the fourth. -/
def nestedTexts : List Value :=
  [.string "a", .array [.array [.string "b"], .string "c"], .array [.array [.array [.string "d"]]]]

/-- One level and then one more, or two levels at once, bring up all texts but the deepest. -/
theorem call_flat_levels_nestedTexts : bare.functions = Builtin.table ∧
    (Number.ofNat 1).Denotes 1 ∧ (Number.ofNat 2).Denotes 2 ∧ 2 ≤ Number.largestCount ∧
    ∃ once twice, once = [.string "a", .array [.string "b"], .string "c", .array [.array [.string "d"]]] ∧
      twice = [.string "a", .string "b", .string "c", .array [.string "d"]] ∧
      bare.call "flat" [.array nestedTexts, .number (.ofNat 1)] = .ok (.array once) ∧
      bare.call "flat" [.array once, .number (.ofNat 1)] = .ok (.array twice) ∧
      bare.call "flat" [.array nestedTexts, .number (.ofNat 2)] = .ok (.array twice) := by
  have hOne : (Number.ofNat 1).Denotes 1 := Number.denotes_ofNat (Number.representable_whole (by decide))
  have hTwo : (Number.ofNat 2).Denotes 2 := Number.denotes_ofNat (Number.representable_whole (by decide))
  obtain ⟨-, hCalls, -⟩ := @call_flat_levels bare rfl nestedTexts
  have hLevels := hCalls 1 1 _ _ _ hOne hOne hTwo (.inl (by decide))
  exact ⟨rfl, hOne, hTwo, by decide, _, _, rfl, rfl, hLevels⟩

end Context

end DocQuery
