import DocQuery.Proofs.Number.Arithmetic

/-!
The place of a number in the order of numbers. Only the zeros of both signs share a place, and sums and
products go to the same place when their operands come from the same places.
-/

namespace DocQuery.Number

variable {a b c d : Number}

/-- Signed units are equal when both parts are, where zero has no sign. -/
theorem signedUnits_eq_iff {n m : Bool} {x y : Nat} :
    signedUnits n x = signedUnits m y ↔ x = y ∧ (x = 0 ∨ n = m) := by
  cases n <;> cases m <;> simp only [signedUnits] <;> grind

theorem signedUnits_inj_of_pos {n m : Bool} {x : Nat} (hPos : 0 < x)
    (h : signedUnits n x = signedUnits m x) : n = m :=
  (signedUnits_eq_iff.mp h).2.resolve_left hPos.ne'

/-- Finite numbers are those whose rank is below the limit. -/
theorem isFinite_iff_rank : a.isFinite = true ↔ a.rank.natAbs < unitLimit := by
  cases a with
  | nan =>
      rw [rank]
      generalize unitLimit = limit
      exact iff_of_false Bool.false_ne_true (by omega)
  | infinity negative =>
      rw [rank, natAbs_signedUnits]
      exact iff_of_false Bool.false_ne_true (Nat.lt_irrefl _)
  | finite negative units fits =>
      rw [rank, natAbs_signedUnits]
      exact iff_of_true rfl fits.1

/-- Numbers of one rank are finite together. -/
theorem isFinite_of_rank_eq (h : a.rank = b.rank) : a.isFinite = b.isFinite := by
  rw [Bool.eq_iff_iff, isFinite_iff_rank, isFinite_iff_rank, h]

/-- Beyond the finite numbers every number has a place of its own. -/
theorem eq_of_rank_eq (hFinite : a.isFinite = false) (h : a.rank = b.rank) : a = b := by
  have hOther : b.isFinite = false := by rw [← isFinite_of_rank_eq h, hFinite]
  have hNan (negative : Bool) : rank nan ≠ rank (.infinity negative) := by
    rw [rank, rank]
    generalize unitLimit = limit
    cases negative <;> simp only [signedUnits] <;> grind
  cases a with
  | finite => cases hFinite
  | nan =>
      cases b with
      | finite => cases hOther
      | nan => rfl
      | infinity m => exact absurd h (hNan m)
  | infinity n =>
      cases b with
      | finite => cases hOther
      | nan => exact absurd h.symm (hNan n)
      | infinity m => rw [signedUnits_inj_of_pos unitLimit_pos h]

/-- Two numbers share a place only if they are the same number or zeros. -/
theorem eq_or_zero_of_rank_eq (h : a.rank = b.rank) :
    a = b ∨ ∃ n m, a = signedZero n ∧ b = signedZero m := by
  cases hFinite : a.isFinite with
  | false => exact .inl (eq_of_rank_eq hFinite h)
  | true =>
      have hOther : b.isFinite = true := by rw [← isFinite_of_rank_eq h, hFinite]
      cases a <;> cases hFinite
      cases b <;> cases hOther
      obtain ⟨rfl, rfl | rfl⟩ := signedUnits_eq_iff.mp h
      · exact .inr ⟨_, _, rfl, rfl⟩
      · exact .inl rfl

theorem rank_ofSignedUnits (zeroSign other : Bool) (units : Int) :
    (ofSignedUnits zeroSign units 1).rank = (ofSignedUnits other units 1).rank := by
  by_cases hUnits : units = 0
  · have fits : Representable units.natAbs := by
      rw [hUnits]
      exact representable_zero
    rw [ofSignedUnits_of_representable fits, ofSignedUnits_of_representable fits, rank, rank, hUnits]
    cases zeroSign <;> cases other <;> rfl
  · rw [ofSignedUnits, ofSignedUnits, if_neg hUnits, if_neg hUnits]

/-- The rank of a sum comes from those of the summands. -/
theorem rank_add_finite (hA : a.isFinite = true) (hB : b.isFinite = true) :
    (a + b).rank = (ofSignedUnits false (a.rank + b.rank) 1).rank := by
  cases a <;> cases hA
  cases b <;> cases hB
  rw [add_finite]
  exact rank_ofSignedUnits _ _ _

/-- A sum with one operand that is not finite is that operand. -/
theorem add_eq_right (hA : a.isFinite = true) (hB : b.isFinite = false) : a + b = b := by
  cases a <;> cases hA
  cases b with
  | nan => rfl
  | infinity _ => rfl
  | finite => cases hB

theorem add_eq_left (hA : a.isFinite = false) (hB : b.isFinite = true) : a + b = a := by
  cases b <;> cases hB
  cases a with
  | nan => rfl
  | infinity _ => rfl
  | finite => cases hA

/-- Numbers of the same ranks have sums of the same rank. -/
theorem rank_add (hA : a.rank = c.rank) (hB : b.rank = d.rank) : (a + b).rank = (c + d).rank := by
  have hLeft : c.isFinite = a.isFinite := (isFinite_of_rank_eq hA).symm
  have hRight : d.isFinite = b.isFinite := (isFinite_of_rank_eq hB).symm
  cases hAFinite : a.isFinite with
  | true =>
      rw [hAFinite] at hLeft
      cases hBFinite : b.isFinite with
      | true =>
          rw [hBFinite] at hRight
          rw [rank_add_finite hAFinite hBFinite, rank_add_finite hLeft hRight, hA, hB]
      | false =>
          rw [hBFinite] at hRight
          rw [add_eq_right hAFinite hBFinite, add_eq_right hLeft hRight, hB]
  | false =>
      rw [hAFinite] at hLeft
      cases hBFinite : b.isFinite with
      | true =>
          rw [hBFinite] at hRight
          rw [add_eq_left hAFinite hBFinite, add_eq_left hLeft hRight, hA]
      | false => rw [eq_of_rank_eq hAFinite hA, eq_of_rank_eq hBFinite hB]

theorem rank_zero_mul (negative : Bool) (b : Number) :
    (signedZero negative * b).rank = (signedZero false * b).rank := by
  cases b with
  | nan => rfl
  | infinity m => rfl
  | finite m units fits =>
      have hNone : 0 * units = 0 * unitsPerOne := by rw [Nat.zero_mul, Nat.zero_mul]
      have hZero (n : Bool) : (signedZero n * .finite m units fits).rank = 0 := by
        rw [signedZero, mul_finite, roundUnits_of_eq representable_zero Numeral.unitsPerOne_pos hNone, rank]
        cases n <;> cases m <;> rfl
      rw [hZero, hZero]

/-- Numbers of the same rank have products of the same rank with a third one. -/
theorem rank_mul (hA : a.rank = c.rank) (b : Number) : (a * b).rank = (c * b).rank := by
  obtain rfl | ⟨n, m, rfl, rfl⟩ := eq_or_zero_of_rank_eq hA
  · rfl
  · rw [rank_zero_mul n, rank_zero_mul m]

theorem rank_eq_of_same (h : a.same b = true) : a.rank = b.rank := by
  rw [same, Bool.and_eq_true, beq_iff_eq] at h
  exact h.2

end DocQuery.Number
