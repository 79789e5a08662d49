import DocQuery.Json.Read
import DocQuery.Proofs.Json.Basic
import DocQuery.Proofs.Number.Rounding

/-!
Every document that is read is in bounds. Significands stay below 64 bits while digits are added, and
scaling gives a finite number or none.
-/

namespace DocQuery.Json

/-- Another digit keeps the significand below its limit, or is dropped. -/
theorem Significand.addWhole_lt {s : Significand} (h : s.digits < significandLimit) (digit : Nat) :
    (s.addWhole digit).digits < significandLimit := by
  rw [addWhole]
  split
  · next hFits => exact hFits.2
  · exact h

theorem Significand.foldl_addWhole_lt {s : Significand} (h : s.digits < significandLimit)
    (digits : List Char) :
    (digits.foldl (fun s c => addWhole s (c.toNat - '0'.toNat)) s).digits < significandLimit := by
  induction digits generalizing s with
  | nil => exact h
  | cons c rest ih => exact ih (addWhole_lt h _)

theorem Significand.addFraction_lt {s : Significand} (h : s.digits < significandLimit)
    (digits : List Char) : (s.addFraction digits).digits < significandLimit := by
  induction digits generalizing s with
  | nil => exact h
  | cons c rest ih =>
      rw [addFraction]
      split
      · next hFits => exact ih hFits
      · exact h

/-- Scaling by a power of ten gives a finite number or none. -/
theorem isFinite_scaleBy? {n size : Number} {exponent : Int} (hFinite : n.isFinite = true)
    (h : scaleBy? n exponent = some size) : size.isFinite = true := by
  induction n, exponent using scaleBy?.induct with
  | case1 n exponent hNear hNegative =>
      rw [scaleBy?, if_pos hNear] at h
      simp only [if_pos hNegative, Option.some.injEq] at h
      rw [← h]
      exact Number.isFinite_div hFinite (Number.exists_ofNat_ten_pow hNear)
  | case2 n exponent hNear power hPositive hProduct =>
      rw [scaleBy?, if_pos hNear] at h
      simp only [if_neg hPositive] at h
      rw [if_pos hProduct] at h
      cases h
      exact hProduct
  | case3 n exponent hNear power hPositive hProduct =>
      rw [scaleBy?, if_pos hNear] at h
      simp only [if_neg hPositive] at h
      rw [if_neg hProduct] at h
      cases h
  | case4 n exponent hFar hZero =>
      rw [scaleBy?, if_neg hFar, if_pos hZero] at h
      cases h
      exact hFinite
  | case5 n exponent hFar hSome hLarge =>
      rw [scaleBy?, if_neg hFar, if_neg hSome, if_pos hLarge] at h
      cases h
  | case6 n exponent hFar hSome hSmall ih =>
      rw [scaleBy?, if_neg hFar, if_neg hSome, if_neg hSmall] at h
      generalize hTop : 308 = top at ih h
      exact ih (Number.isFinite_div hFinite (Number.exists_ofNat_ten_pow hTop.ge)) h

/-- A number that is read is an integer within bounds or finite. -/
theorem inBounds_of_numberValue? {negative : Bool} {whole : List Char} {fraction : Option (List Char)}
    {exponent : Option Int} {j : Json} (h : numberValue? negative whole fraction exponent = some j) :
    j.InBounds := by
  have hStart := Significand.foldl_addWhole_lt (s := ⟨0, 0, 0⟩) (by decide) whole
  rw [numberValue?] at h
  generalize whole.foldl (fun s c => Significand.addWhole s (c.toNat - '0'.toNat)) ⟨0, 0, 0⟩ = start
    at h hStart
  have hLimit : significandLimit = 2 ^ 64 := rfl
  dsimp only at h
  split at h
  · split at h
    · cases h
      exact .integer (by omega) (by omega)
    · split at h
      · cases h
        refine .float ?_
        rw [Number.isFinite_neg]
        exact Number.isFinite_ofNat (by omega)
      · next hSize =>
          cases h
          have hHalf : Nat.pow 2 63 = 2 ^ 63 := rfl
          exact .integer (by omega) (by omega)
  · obtain ⟨size, hSize, hEq⟩ := Option.map_eq_some_iff.mp h
    have hFinite : size.isFinite = true := by
      split at hSize
      · obtain ⟨_, hEq⟩ := Option.ite_none_left_eq_some.mp hSize
        cases hEq
        rfl
      · have hDigits := Significand.addFraction_lt hStart (fraction.getD [])
        exact isFinite_scaleBy? (Number.isFinite_ofNat (by omega)) hSize
    cases hEq
    refine .float ?_
    split
    · rwa [Number.isFinite_neg]
    · exact hFinite

theorem inBounds_of_readNumber? {cs rest : List Char} {j : Json} (h : readNumber? cs = some (j, rest)) :
    j.InBounds := by
  unfold readNumber? at h
  split at h
  next negative cs _ =>
    dsimp only at h
    obtain ⟨_, hNumber⟩ := Option.ite_none_left_eq_some.mp h
    obtain ⟨⟨fraction, afterFraction⟩, _, hNumber⟩ := Option.bind_eq_some_iff.mp hNumber
    obtain ⟨⟨exponent, afterExponent⟩, _, hNumber⟩ := Option.bind_eq_some_iff.mp hNumber
    obtain ⟨value, hValue, hEq⟩ := Option.bind_eq_some_iff.mp hNumber
    cases hEq
    exact inBounds_of_numberValue? hValue

/-- What is read with some fuel is in bounds. -/
structure ReadsInBounds (fuel : Nat) : Prop where
  value : ∀ {depth cs rest j}, readValue? fuel depth cs = some (j, rest) → j.InBounds
  items : ∀ {depth cs rest items}, readItems? fuel depth cs = some (items, rest) →
    ∀ item ∈ items, item.InBounds
  members : ∀ {depth cs rest members}, readMembers? fuel depth cs = some (members, rest) →
    ∀ member ∈ members, member.2.InBounds

namespace ReadsInBounds

variable {fuel depth : Nat} {cs rest : List Char}

/-- With one more step of fuel, values are still in bounds. -/
theorem value_succ (hFuel : ReadsInBounds fuel) {j : Json}
    (h : readValue? (fuel + 1) depth cs = some (j, rest)) : j.InBounds := by
  rw [readValue?] at h
  split at h
  · cases h
    exact .null
  · cases h
    exact .bool true
  · cases h
    exact .bool false
  · obtain ⟨⟨s, _⟩, _, hEq⟩ := Option.map_eq_some_iff.mp h
    cases hEq
    exact .string s
  · obtain ⟨_, hArray⟩ := Option.ite_none_left_eq_some.mp h
    split at hArray
    · cases hArray
      exact .array nofun
    · obtain ⟨⟨items, _⟩, hItems, hEq⟩ := Option.map_eq_some_iff.mp hArray
      cases hEq
      exact .array (hFuel.items hItems)
  · obtain ⟨_, hObject⟩ := Option.ite_none_left_eq_some.mp h
    split at hObject
    · cases hObject
      exact .object nofun
    · obtain ⟨⟨members, _⟩, hMembers, hEq⟩ := Option.map_eq_some_iff.mp hObject
      cases hEq
      exact .object (hFuel.members hMembers)
  · exact inBounds_of_readNumber? h

theorem items_succ (hFuel : ReadsInBounds fuel) {items : List Json}
    (h : readItems? (fuel + 1) depth cs = some (items, rest)) : ∀ item ∈ items, item.InBounds := by
  rw [readItems?] at h
  split at h
  · cases h
  · next item _ hItem =>
      split at h
      · cases h
        exact List.forall_mem_singleton.mpr (hFuel.value hItem)
      · obtain ⟨⟨items, _⟩, hItems, hEq⟩ := Option.map_eq_some_iff.mp h
        cases hEq
        exact List.forall_mem_cons.mpr ⟨hFuel.value hItem, hFuel.items hItems⟩
      · cases h

theorem members_succ (hFuel : ReadsInBounds fuel) {members : List (String × Json)}
    (h : readMembers? (fuel + 1) depth cs = some (members, rest)) :
    ∀ member ∈ members, member.2.InBounds := by
  rw [readMembers?] at h
  split at h
  · split at h
    · cases h
    · split at h
      · split at h
        · cases h
        · next value _ hValue =>
            split at h
            · cases h
              exact List.forall_mem_singleton.mpr (hFuel.value hValue)
            · obtain ⟨⟨members, _⟩, hMembers, hEq⟩ := Option.map_eq_some_iff.mp h
              cases hEq
              exact List.forall_mem_cons.mpr ⟨hFuel.value hValue, hFuel.members hMembers⟩
            · cases h
      · cases h
  · cases h

end ReadsInBounds

/-- What is read is in bounds, by induction on the fuel. -/
theorem readsInBounds (fuel : Nat) : ReadsInBounds fuel := by
  induction fuel with
  | zero => exact ⟨nofun, nofun, nofun⟩
  | succ fuel ih => exact ⟨ih.value_succ, ih.items_succ, ih.members_succ⟩

/-- Whatever is read can be written. -/
theorem inBounds_of_ofText? {text : String} {j : Json} (h : ofText? text = some j) : j.InBounds := by
  rw [ofText?] at h
  split at h
  · next hRead =>
      obtain ⟨_, hEq⟩ := Option.ite_none_right_eq_some.mp h
      cases hEq
      exact (readsInBounds _).value hRead
  · cases h

end DocQuery.Json
