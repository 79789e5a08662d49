import DocQuery.Keyed

/-!
What is found under the names of a keyed list after a name has been set, and lists of things under
distinct names, which are keyed lists as they stand.
-/

namespace DocQuery.Keyed

variable {α : Type}

theorem get?_cons (key name : String) (v : α) (rest : Keyed α) :
    get? ((key, v) :: rest) name = if name = key then some v else get? rest name := by
  by_cases h : name = key
  · subst h
    simp [get?]
  · simp [get?, List.lookup_cons, beq_eq_false_iff_ne.mpr h, h]

/-- What is found under a name is listed with it. -/
theorem mem_of_get? {k : Keyed α} {name : String} {v : α} (h : get? k name = some v) : (name, v) ∈ k := by
  obtain ⟨before, after, rfl, -⟩ := List.lookup_eq_some_iff.mp h
  exact List.mem_append_right before List.mem_cons_self

theorem get?_set_self (k : Keyed α) (name : String) (v : α) :
    get? (set k name v) name = some v := by
  induction k with
  | nil => rw [set, get?_cons, if_pos rfl]
  | cons entry rest ih =>
      rw [set]
      split
      · next hKey => rw [get?_cons, if_pos hKey.symm]
      · next hKey => rw [get?_cons, if_neg (Ne.symm hKey), ih]

theorem get?_set_of_ne (k : Keyed α) {name other : String} (v : α) (hOther : other ≠ name) :
    get? (set k name v) other = get? k other := by
  induction k with
  | nil => rw [set, get?_cons, if_neg hOther]
  | cons entry rest ih =>
      rw [set]
      split
      · next hKey => rw [get?_cons, get?_cons, hKey, if_neg hOther, if_neg hOther]
      · rw [get?_cons, get?_cons, ih]

theorem set_of_not_mem (k : Keyed α) {name : String} (v : α) (hNew : name ∉ k.names) :
    set k name v = k ++ [(name, v)] := by
  induction k with
  | nil => rfl
  | cons entry rest ih =>
      rw [names, List.map_cons, List.mem_cons, not_or] at hNew
      rw [set, if_neg (Ne.symm hNew.1), ih hNew.2, List.cons_append]

/-- Lists without a common name are put behind one another. -/
theorem merge_of_nodup (k new : Keyed α) (hDistinct : (names (k ++ new)).Nodup) :
    merge k new = k ++ new := by
  induction new generalizing k with
  | nil => rw [merge, List.foldl_nil, List.append_nil]
  | cons entry rest ih =>
      obtain ⟨name, v⟩ := entry
      have hNew : name ∉ k.names := by
        rw [names, List.map_append, List.nodup_append] at hDistinct
        exact fun hMem => hDistinct.2.2 name hMem name (List.mem_cons_self ..) rfl
      have hStep : k ++ (name, v) :: rest = set k name v ++ rest := by
        rw [set_of_not_mem k v hNew, List.append_assoc, List.singleton_append]
      rw [hStep] at hDistinct ⊢
      exact ih _ hDistinct

/-- Distinct names are kept in the order in which they are given. -/
theorem ofList_of_nodup (entries : List (String × α)) (hDistinct : (names entries).Nodup) :
    ofList entries = entries :=
  merge_of_nodup [] entries hDistinct

variable {β : Type} (f : α → β)

theorem map_set (k : Keyed α) (name : String) (v : α) :
    (set k name v).map (fun entry => (entry.1, f entry.2)) =
      set (k.map fun entry => (entry.1, f entry.2)) name (f v) := by
  induction k with
  | nil => rfl
  | cons entry rest ih =>
      rw [List.map_cons, set, set]
      split
      · rfl
      · rw [List.map_cons, ih]

/-- The things can be changed before they are put under their names or after. -/
theorem map_ofList (entries : List (String × α)) :
    (ofList entries).map (fun entry => (entry.1, f entry.2)) =
      ofList (entries.map fun entry => (entry.1, f entry.2)) := by
  have hMerge (k : Keyed α) : (merge k entries).map (fun entry => (entry.1, f entry.2)) =
      merge (k.map fun entry => (entry.1, f entry.2)) (entries.map fun entry => (entry.1, f entry.2)) := by
    induction entries generalizing k with
    | nil => rfl
    | cons entry rest ih =>
        have hRest := ih (set k entry.1 entry.2)
        rw [map_set] at hRest
        exact hRest
  exact hMerge []

end DocQuery.Keyed
