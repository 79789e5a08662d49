import Mathlib.Data.List.Sort
import Mathlib.Data.String.Basic
import DocQuery.Ordered
import DocQuery.Proofs.Keyed

/-!
Ascending lists as sets and as tables. What they hold after an insertion follows from the insertion
alone; that they stay ascending makes them the only lists with these contents, so that two of them are
equal as soon as they answer alike.
-/

namespace DocQuery.Ordered

variable {α : Type}

theorem mem_insert {x y : String} {xs : List String} : y ∈ insert x xs ↔ y = x ∨ y ∈ xs := by
  induction xs with
  | nil => simp [insert]
  | cons z rest ih =>
      rw [insert]
      split
      · rw [List.mem_cons, List.mem_cons, ih, or_left_comm]
      · split
        · next hEq => rw [List.mem_cons, hEq, or_self_left]
        · rw [List.mem_cons]

/-- Inserting one text after the other adds them all. -/
theorem mem_foldl_insert {x : String} {xs ys : List String} :
    x ∈ ys.foldl (fun set y => insert y set) xs ↔ x ∈ xs ∨ x ∈ ys := by
  induction ys generalizing xs with
  | nil => rw [List.foldl_nil, or_iff_left List.not_mem_nil]
  | cons y rest ih => rw [List.foldl_cons, ih, mem_insert, List.mem_cons, or_comm (a := x = y), or_assoc]

/-- Texts stay in ascending order when one is inserted. -/
theorem pairwise_insert {xs : List String} (x : String) (hXs : xs.Pairwise (· < ·)) :
    (insert x xs).Pairwise (· < ·) := by
  induction xs with
  | nil => exact List.pairwise_singleton _ _
  | cons z rest ih =>
      obtain ⟨hHead, hRest⟩ := List.pairwise_cons.mp hXs
      rw [insert]
      split
      · next hLess =>
          refine List.pairwise_cons.mpr ⟨fun y hY => ?_, ih hRest⟩
          rcases mem_insert.mp hY with rfl | hY
          · exact hLess
          · exact hHead y hY
      · next hNotLess =>
          split
          · exact hXs
          · next hNe =>
              have hFirst : x < z := lt_of_le_of_ne (not_lt.mp hNotLess) (Ne.symm hNe)
              refine List.pairwise_cons.mpr ⟨fun y hY => ?_, hXs⟩
              rcases List.mem_cons.mp hY with rfl | hY
              · exact hFirst
              · exact hFirst.trans (hHead y hY)

/-- What satisfies a test is inserted among those that do. -/
theorem filter_insert {xs : List String} (x : String) (hXs : xs.Pairwise (· < ·))
    (test : String → Bool) :
    (insert x xs).filter test = if test x then insert x (xs.filter test) else xs.filter test := by
  have hInserted := (pairwise_insert x hXs).filter test
  split
  · next hTest =>
      refine hInserted.eq_of_mem_iff (pairwise_insert x (hXs.filter test)) fun y => ?_
      simp only [List.mem_filter, mem_insert, or_and_right]
      exact or_congr_left ⟨And.left, fun hEq => ⟨hEq, hEq ▸ hTest⟩⟩
  · next hTest =>
      refine hInserted.eq_of_mem_iff (hXs.filter test) fun y => ?_
      simp only [List.mem_filter, mem_insert, or_and_right]
      exact or_iff_right fun ⟨hEq, hY⟩ => hTest (hEq ▸ hY)

/-- Putting a thing under a text inserts the text among the keys. -/
theorem keys_put (key : String) (v : α) (entries : List (String × α)) :
    (put key v entries).map Prod.fst = insert key (entries.map Prod.fst) := by
  induction entries with
  | nil => rfl
  | cons entry rest ih =>
      rw [put, List.map_cons, insert]
      split
      · rw [List.map_cons, ih]
      · split
        · next hEq => rw [List.map_cons, hEq]
        · rfl

theorem lookup_cons (key : String) (v : α) (rest : List (String × α)) (other : String) :
    ((key, v) :: rest).lookup other = if other = key then some v else rest.lookup other :=
  Keyed.get?_cons key other v rest

/-- What is put under a text is found there, and the others stay. -/
theorem lookup_put (key : String) (v : α) (entries : List (String × α)) (other : String) :
    (put key v entries).lookup other = if other = key then some v else entries.lookup other := by
  induction entries with
  | nil => exact lookup_cons key v [] other
  | cons entry rest ih =>
      obtain ⟨name, old⟩ := entry
      rw [put]
      split
      · next hLess =>
          rw [lookup_cons, lookup_cons, ih]
          by_cases hName : other = name
          · rw [if_pos hName, if_pos hName, if_neg fun hKey => hLess.ne (hName.symm.trans hKey)]
          · rw [if_neg hName, if_neg hName]
      · split
        · next hEq =>
            rw [lookup_cons, lookup_cons, hEq]
            split <;> rfl
        · exact lookup_cons key v _ other

/-- With ascending keys every entry is found under its key. -/
theorem mem_iff_lookup {entries : List (String × α)}
    (hKeys : (entries.map Prod.fst).Pairwise (· < ·)) (key : String) (v : α) :
    (key, v) ∈ entries ↔ entries.lookup key = some v := by
  induction entries with
  | nil => simp
  | cons entry rest ih =>
      obtain ⟨name, first⟩ := entry
      obtain ⟨hHead, hRest⟩ := List.pairwise_cons.mp hKeys
      rw [lookup_cons, List.mem_cons, Prod.mk.injEq]
      by_cases hName : key = name
      · have hNot : (key, v) ∉ rest := fun hMem =>
          lt_irrefl name (hHead name (hName ▸ List.mem_map_of_mem hMem))
        simp [hName, hName ▸ hNot, eq_comm]
      · simp [hName, ih hRest]

/-- Tables with ascending names are equal when the same is found in them. -/
theorem eq_of_lookup_eq {xs ys : List (String × α)} (hXs : (xs.map Prod.fst).Pairwise (· < ·))
    (hYs : (ys.map Prod.fst).Pairwise (· < ·)) (h : ∀ key, xs.lookup key = ys.lookup key) :
    xs = ys := by
  have hIrrefl : Std.Irrefl fun a b : String × α => a.1 < b.1 := ⟨fun a => lt_irrefl a.1⟩
  have hAsymm : Std.Asymm fun a b : String × α => a.1 < b.1 := ⟨fun _ _ => lt_asymm⟩
  refine List.Pairwise.eq_of_mem_iff (List.pairwise_map.mp hXs) (List.pairwise_map.mp hYs) ?_
  rintro ⟨key, v⟩
  rw [mem_iff_lookup hXs, mem_iff_lookup hYs, h]

theorem mem_ofList {x : String} {xs : List String} : x ∈ ofList xs ↔ x ∈ xs := by
  rw [ofList, mem_foldl_insert, or_iff_right List.not_mem_nil]

theorem mem_union {x : String} {xs ys : List String} : x ∈ union xs ys ↔ x ∈ xs ∨ x ∈ ys := by
  rw [union, mem_foldl_insert]

theorem mem_inter {x : String} {xs ys : List String} : x ∈ inter xs ys ↔ x ∈ xs ∧ x ∈ ys := by
  rw [inter, List.mem_filter, List.contains_iff_mem]

theorem mem_diff {x : String} {xs ys : List String} : x ∈ diff xs ys ↔ x ∈ xs ∧ x ∉ ys := by
  rw [diff, List.mem_filter, Bool.not_eq_true', ← Bool.not_eq_true, List.contains_iff_mem]

/-- A text joins the set under its key, and the others stay. -/
theorem mem_setAt_insertAt (key x : String) (sets : List (String × List String))
    (other y : String) :
    y ∈ setAt (insertAt key x sets) other ↔ (other = key ∧ y = x) ∨ y ∈ setAt sets other := by
  rw [setAt, insertAt, lookup_put]
  split
  · next hKey => rw [hKey, Option.getD_some, mem_insert, and_iff_right rfl]
  · next hKey => rw [← setAt, or_iff_right fun h => hKey h.1]

end DocQuery.Ordered
