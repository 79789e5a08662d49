import DocQuery.Proofs.Number.Arithmetic

/-!
Whole numbers. Up to `2 ^ 53` they are added, subtracted and multiplied as integers, whichever sign a
zero has, and dividing by an even number and rounding down is integer division: the quotient is rounded
first, but it lies too far from the next whole number to be taken for it.
-/

namespace DocQuery.Number

open Numeral

/-- A number stands for an integer; zero of either sign stands for zero. -/
inductive Denotes : Number → Int → Prop where
  | positive (count : Nat) (fits : Representable (count * unitsPerOne)) :
      Denotes (.finite false (count * unitsPerOne) fits) count
  | negative (count : Nat) (fits : Representable (count * unitsPerOne)) :
      Denotes (.finite true (count * unitsPerOne) fits) (-count)

theorem roundUnits_whole (negative : Bool) {count : Nat} (fits : Representable (count * unitsPerOne)) :
    roundUnits negative (count * unitsPerOne) 1 = .finite negative (count * unitsPerOne) fits :=
  roundUnits_of_eq fits Nat.one_pos (Nat.mul_one _).symm

/-- A whole number that can be stored denotes itself. -/
theorem denotes_ofNat {count : Nat} (fits : Representable (count * unitsPerOne)) :
    Denotes (ofNat count) count := by
  rw [ofNat, ofRatio, roundUnits_whole false fits]
  exact .positive count fits

/-- An integer has a number for each of its signs: one, or two when it is zero. -/
theorem denotes_finite {negative : Bool} {i : Int} (fits : Representable (i.natAbs * unitsPerOne))
    (hSign : if negative then i ≤ 0 else 0 ≤ i) :
    Denotes (.finite negative (i.natAbs * unitsPerOne) fits) i := by
  cases negative with
  | false =>
      obtain ⟨count, rfl⟩ := Int.eq_ofNat_of_zero_le hSign
      exact .positive count fits
  | true =>
      obtain ⟨count, hCount⟩ := Int.eq_ofNat_of_zero_le (Int.neg_nonneg_of_nonpos hSign)
      obtain rfl : i = -count := by omega
      have hAbs : (-(count : Int)).natAbs = count := by omega
      simp only [hAbs] at fits ⊢
      exact .negative count fits

/-- An integer of 53 bits denotes itself. -/
theorem denotes_ofInt {i : Int} (h : i.natAbs ≤ 2 ^ 53) : Denotes (ofInt i) i := by
  rw [ofInt, ofRatio, roundUnits_whole _ (representable_whole h)]
  refine denotes_finite _ ?_
  by_cases hNegative : i < 0 <;> simp [hNegative] <;> omega

/-- An integer that is given in units denotes itself. -/
theorem denotes_ofSignedUnits {i : Int} (h : i.natAbs ≤ 2 ^ 53) (zeroSign : Bool) :
    Denotes (ofSignedUnits zeroSign (i * unitsPerOne) 1) i := by
  have hUnits : (i * unitsPerOne).natAbs = i.natAbs * unitsPerOne := by
    rw [Int.natAbs_mul, Int.natAbs_natCast]
  have hPos : (0 : Int) < unitsPerOne := Int.natCast_pos.mpr unitsPerOne_pos
  rw [ofSignedUnits, hUnits, roundUnits_whole _ (representable_whole h)]
  refine denotes_finite _ ?_
  have hZero : i * unitsPerOne = 0 ↔ i = 0 := by
    rw [Int.mul_eq_zero]
    exact or_iff_left hPos.ne'
  have hNegative : i * unitsPerOne < 0 ↔ i < 0 := by
    have hScaled := @Int.mul_lt_mul_right unitsPerOne i 0 hPos
    rwa [Int.zero_mul] at hScaled
  simp only [hZero, hNegative]
  split_ifs with hNone hSign hSign
  · exact hNone.le
  · exact hNone.ge
  · exact (of_decide_eq_true hSign).le
  · exact Int.not_lt.mp (mt decide_eq_true hSign)

theorem denotes_signedZero (negative : Bool) : Denotes (signedZero negative) 0 := by
  have hUnits : (0 : Int).natAbs * unitsPerOne = 0 := by rw [Int.natAbs_zero, Nat.zero_mul]
  have hZero := @denotes_finite negative 0 (hUnits ▸ representable_zero) (by cases negative <;> decide)
  simp only [hUnits] at hZero
  exact hZero

/-! ### Quotients -/

/-- Rounding adds at most a half. -/
theorem roundHalfEven_mul_le (n d : Nat) : 2 * (roundHalfEven n d * d) ≤ 2 * n + d := by
  have hSplit : d * (n / d) + n % d = n := Nat.div_add_mod n d
  have hDown : n / d * d = d * (n / d) := Nat.mul_comm _ _
  have hUp : (n / d + 1) * d = d * (n / d) + d := by rw [Nat.succ_mul, hDown]
  unfold roundHalfEven
  dsimp only
  split_ifs
  · omega
  · omega
  · omega
  · omega

/-- The step between the neighbours of a quotient of small numbers is less than twice the distance from
the next whole number, which is even when the dividend is the largest. -/
theorem step_lt {i j : Nat} (hDividend : i ≤ 2 ^ 53) (hDivisor : j ≤ 2 ^ 53) (hEven : j % 2 = 0)
    (hPos : 0 < j) :
    j * 2 ^ ((i * unitsPerOne / j).log2 - 52) < 2 * unitsPerOne * ((i / j + 1) * j - i) := by
  have hUnits : 2 ^ 53 < unitsPerOne := by
    rw [unitsPerOne_eq]
    exact Nat.pow_lt_pow_right (by decide) (by decide)
  have hGap : 1 ≤ (i / j + 1) * j - i := Nat.sub_pos_of_lt (Nat.lt_mul_of_div_lt (Nat.lt_succ_self _) hPos)
  generalize hLog : (i * unitsPerOne / j).log2 = log
  rcases Nat.lt_or_ge log 53 with hLess | hMore
  · calc j * 2 ^ (log - 52) = j := by rw [Nat.sub_eq_zero_of_le (Nat.le_of_lt_succ hLess), Nat.pow_zero,
          Nat.mul_one]
      _ < 2 * unitsPerOne * 1 := by omega
      _ ≤ _ := Nat.mul_le_mul_left _ hGap
  · have hSome : i * unitsPerOne / j ≠ 0 := by
      intro hZero
      rw [hZero, Nat.log2_zero] at hLog
      omega
    have hQuotient : j * 2 ^ log ≤ i * unitsPerOne :=
      (Nat.mul_le_mul_left j (hLog ▸ Nat.log2_self_le hSome)).trans (Nat.mul_div_le _ _)
    have hStep : 2 ^ 52 * (j * 2 ^ (log - 52)) = j * 2 ^ log := by
      rw [Nat.mul_left_comm, ← Nat.pow_add, Nat.add_sub_cancel' (by omega)]
    rcases Nat.lt_or_eq_of_le hDividend with hSmall | rfl
    · have hScaled : i * unitsPerOne < 2 ^ 53 * unitsPerOne :=
        Nat.mul_lt_mul_of_pos_right hSmall unitsPerOne_pos
      calc j * 2 ^ (log - 52) < 2 * unitsPerOne * 1 := by omega
        _ ≤ _ := Nat.mul_le_mul_left _ hGap
    · have hTwo : 2 ≤ (2 ^ 53 / j + 1) * j - 2 ^ 53 := by
        have hMultiple : (2 ^ 53 / j + 1) * j % 2 = 0 := by
          rw [Nat.mul_mod, hEven, Nat.mul_zero, Nat.zero_mod]
        omega
      calc j * 2 ^ (log - 52) < 2 * unitsPerOne * 2 := by omega
        _ ≤ _ := Nat.mul_le_mul_left _ hTwo

/-- A quotient of small numbers is not rounded to a whole number above it. -/
theorem nearestUnits_div {i j : Nat} (hDividend : i ≤ 2 ^ 53) (hDivisor : j ≤ 2 ^ 53)
    (hEven : j % 2 = 0) (hPos : 0 < j) :
    nearestUnits (i * unitsPerOne) j / unitsPerOne = i / j := by
  have hBelow : i < (i / j + 1) * j := Nat.lt_mul_of_div_lt (Nat.lt_succ_self _) hPos
  have hFits : Representable ((i / j + 1) * unitsPerOne) := by
    have hTwo : 2 ≤ j := by omega
    have hHalf : i / j ≤ i / 2 := Nat.div_le_div_left hTwo (by decide)
    exact representable_whole (by omega)
  have hLower : i / j * unitsPerOne ≤ nearestUnits (i * unitsPerOne) j := by
    refine le_nearestUnits (representable_whole ((Nat.div_le_self i j).trans hDividend)) hPos ?_
    rw [Nat.mul_right_comm]
    exact Nat.mul_le_mul_right _ (Nat.div_mul_le_self i j)
  have hUpper : nearestUnits (i * unitsPerOne) j < (i / j + 1) * unitsPerOne := by
    have hStep := step_lt hDividend hDivisor hEven hPos
    -- The whole number above is a multiple of the step.
    have hQuotient : i * unitsPerOne / j ≤ (i / j + 1) * unitsPerOne := by
      refine Nat.div_le_of_le_mul ?_
      rw [Nat.mul_left_comm, ← Nat.mul_assoc]
      exact Nat.mul_le_mul_right _ hBelow.le
    obtain ⟨count, hCount⟩ : 2 ^ ((i * unitsPerOne / j).log2 - 52) ∣ (i / j + 1) * unitsPerOne :=
      (Nat.pow_dvd_pow 2 (Nat.sub_le_sub_right (log2_le_log2 hQuotient) 52)).trans
        (Nat.dvd_of_mod_eq_zero hFits.2)
    have hStep := step_lt hDividend hDivisor hEven hPos
    rw [nearestUnits, Nat.pow_eq]
    generalize 2 ^ ((i * unitsPerOne / j).log2 - 52) = step at hCount hStep ⊢
    have hRounded := roundHalfEven_mul_le (i * unitsPerOne) (j * step)
    generalize roundHalfEven (i * unitsPerOne) (j * step) = rounded at hRounded ⊢
    have hLess : 2 * (rounded * (j * step)) < 2 * (count * (j * step)) := by
      have hGap : 2 * (count * (j * step)) =
          2 * (i * unitsPerOne) + 2 * unitsPerOne * ((i / j + 1) * j - i) := by
        calc 2 * (count * (j * step)) = 2 * unitsPerOne * ((i / j + 1) * j) := by
              rw [Nat.mul_left_comm count, Nat.mul_comm count, ← hCount]
              ring
          _ = _ := by
              rw [Nat.mul_sub, Nat.mul_comm i, ← Nat.mul_assoc 2]
              exact (Nat.add_sub_cancel' (Nat.mul_le_mul_left _ hBelow.le)).symm
      omega
    rw [hCount, Nat.mul_comm step]
    have hStepPos : 0 < step := Nat.pos_of_ne_zero (by
      rintro rfl
      rw [Nat.mul_zero, Nat.mul_zero, Nat.mul_zero] at hLess
      exact Nat.lt_irrefl _ hLess)
    exact Nat.mul_lt_mul_of_pos_right
      (Nat.lt_of_mul_lt_mul_right (Nat.lt_of_mul_lt_mul_left hLess)) hStepPos
  exact Nat.div_eq_of_lt_le hLower hUpper

namespace Denotes

variable {a b : Number} {i j : Int}

/-- What denotes an integer is finite, with that many units. -/
theorem exists_signedUnits (h : Denotes a i) : ∃ negative units fits,
    a = .finite negative units fits ∧ signedUnits negative units = i * unitsPerOne := by
  cases h with
  | positive count fits => exact ⟨_, _, fits, rfl, Int.natCast_mul _ _⟩
  | negative count fits =>
      refine ⟨_, _, fits, rfl, ?_⟩
      rw [signedUnits, if_pos rfl, Int.natCast_mul, Int.neg_mul]

/-- The rank of what denotes an integer. -/
theorem rank (h : Denotes a i) : a.rank = i * unitsPerOne := by
  obtain ⟨negative, units, fits, rfl, hUnits⟩ := h.exists_signedUnits
  exact hUnits

theorem isNan (h : Denotes a i) : a.isNan = false := by
  cases h <;> rfl

/-- Sums of 53 bits are exact. -/
theorem add (ha : Denotes a i) (hb : Denotes b j) (h : (i + j).natAbs ≤ 2 ^ 53) :
    Denotes (a + b) (i + j) := by
  obtain ⟨n, x, hx, rfl, hA⟩ := ha.exists_signedUnits
  obtain ⟨m, y, hy, rfl, hB⟩ := hb.exists_signedUnits
  rw [add_finite, hA, hB, ← Int.add_mul]
  exact denotes_ofSignedUnits h _

/-- The number with the other sign denotes the negated integer. -/
theorem neg (ha : Denotes a i) : Denotes (-a) (-i) := by
  cases ha with
  | positive count fits => exact .negative count fits
  | negative count fits =>
      rw [Int.neg_neg]
      exact .positive count fits

/-- Differences of 53 bits are exact. -/
theorem sub (ha : Denotes a i) (hb : Denotes b j) (h : (i - j).natAbs ≤ 2 ^ 53) :
    Denotes (a - b) (i - j) := by
  rw [Int.sub_eq_add_neg] at h ⊢
  exact ha.add hb.neg h

theorem abs (ha : Denotes a i) : Denotes a.abs i.natAbs := by
  cases ha with
  | positive count fits => exact .positive count fits
  | negative count fits =>
      rw [Int.natAbs_neg]
      exact .positive count fits

/-- What denotes integers is ordered as they are. -/
theorem less (ha : Denotes a i) (hb : Denotes b j) : a.less b = decide (i < j) := by
  have hPos : (0 : Int) < unitsPerOne := Int.natCast_pos.mpr unitsPerOne_pos
  rw [Number.less, ha.isNan, hb.isNan, ha.rank, hb.rank]
  simp only [Int.mul_lt_mul_right hPos, Bool.not_false, Bool.true_and]

/-- A whole number has its size as a count, and a sign that fits it. -/
theorem exists_finite (ha : Denotes a i) : ∃ negative fits,
    a = .finite negative (i.natAbs * unitsPerOne) fits ∧ if negative then i ≤ 0 else 0 ≤ i := by
  cases ha with
  | positive count fits => exact ⟨false, fits, rfl, Int.natCast_nonneg count⟩
  | negative count fits =>
      have hAbs : (-(count : Int)).natAbs = count := by omega
      simp only [hAbs]
      exact ⟨true, fits, rfl, Int.neg_nonpos_of_nonneg (Int.natCast_nonneg count)⟩

/-- Products of 53 bits are exact. -/
theorem mul (ha : Denotes a i) (hb : Denotes b j) (h : (i * j).natAbs ≤ 2 ^ 53) :
    Denotes (a * b) (i * j) := by
  obtain ⟨n, hx, rfl, hSignA⟩ := ha.exists_finite
  obtain ⟨m, hy, rfl, hSignB⟩ := hb.exists_finite
  have fits := representable_whole h
  have hProduct : i.natAbs * unitsPerOne * (j.natAbs * unitsPerOne) =
      (i * j).natAbs * unitsPerOne * unitsPerOne := by
    rw [Int.natAbs_mul]
    ring
  rw [mul_finite, roundUnits_of_eq fits unitsPerOne_pos hProduct]
  refine denotes_finite fits ?_
  cases n <;> cases m
  · exact Int.mul_nonneg hSignA hSignB
  · exact Int.mul_nonpos_of_nonneg_of_nonpos hSignA hSignB
  · exact Int.mul_nonpos_of_nonpos_of_nonneg hSignA hSignB
  · exact Int.mul_nonneg_of_nonpos_of_nonpos hSignA hSignB

/-- The whole part of what denotes an integer is that integer. -/
theorem toInt? (ha : Denotes a i) : a.toInt? = some i := by
  obtain ⟨negative, fits, rfl, hSign⟩ := ha.exists_finite
  rw [Number.toInt?, Nat.mul_div_cancel _ unitsPerOne_pos, signedUnits]
  cases negative with
  | false => exact congrArg some (Int.natAbs_of_nonneg hSign)
  | true => exact congrArg some (by rw [if_pos rfl, Int.ofNat_natAbs_of_nonpos hSign, Int.neg_neg])

/-- Nothing is dropped from what denotes an integer. -/
theorem trunc_eq (ha : Denotes a i) : a.trunc = a := by
  obtain ⟨negative, fits, rfl, _⟩ := ha.exists_finite
  rw [Number.trunc, mapWhole, Nat.mul_div_cancel _ unitsPerOne_pos, roundUnits_whole negative fits]

/-- Nothing is rounded in what denotes an integer. -/
theorem round_eq (ha : Denotes a i) : a.round = a := by
  obtain ⟨negative, fits, rfl, _⟩ := ha.exists_finite
  have hPos := unitsPerOne_pos
  have hCount : (2 * (i.natAbs * unitsPerOne) + unitsPerOne) / (2 * unitsPerOne) = i.natAbs := by
    rw [Nat.mul_left_comm, Nat.mul_comm i.natAbs, Nat.mul_add_div (by omega),
      Nat.div_eq_of_lt (by omega), Nat.add_zero]
  rw [Number.round, mapWhole, hCount, roundUnits_whole negative fits]

theorem isNegative (ha : Denotes a i) : a.isNegative = decide (i < 0) :=
  ha.less (denotes_signedZero false)

/-- The whole part of a quotient of a count and an even size. -/
theorem floor_div {count size : Nat} (ha : Denotes a count) (hb : Denotes b size)
    (hCount : count ≤ 2 ^ 53) (hSize : size ≤ 2 ^ 53) (hEven : size % 2 = 0) (hPos : 0 < size) :
    Denotes (a / b).floor ↑(count / size) := by
  obtain ⟨n, hx, rfl, hSign⟩ := ha.exists_finite
  obtain ⟨m, hy, rfl, hSignB⟩ := hb.exists_finite
  simp only [Int.natAbs_natCast] at hx hy ⊢
  obtain rfl : m = false := by
    cases m with
    | false => rfl
    | true => exact absurd (Int.natCast_nonpos_iff.mp hSignB) hPos.ne'
  have hWhole := nearestUnits_div hCount hSize hEven hPos
  have hFits : Representable (nearestUnits (count * unitsPerOne) size) :=
    representable_nearestUnits ((nearestUnits_le hx hPos (Nat.le_mul_of_pos_right _ hPos)).trans_lt hx.1)
  have hSame : count * unitsPerOne * unitsPerOne * size = count * unitsPerOne * (size * unitsPerOne) := by
    ring
  rw [div_finite hx hy (Nat.mul_pos hPos unitsPerOne_pos).ne', roundUnits,
    nearestUnits_congr (Nat.mul_pos hPos unitsPerOne_pos) hPos hSame, ofUnits, dif_pos hFits, floor, mapWhole]
  have hQuotient := representable_whole ((Nat.div_le_self count size).trans hCount)
  cases n with
  | false =>
      simp only [Bool.bne_false, Bool.false_eq_true, if_false]
      rw [hWhole, roundUnits_whole false hQuotient]
      exact .positive _ hQuotient
  | true =>
      obtain rfl : count = 0 := Int.natCast_nonpos_iff.mp hSign
      have hZero : nearestUnits (0 * unitsPerOne) size = 0 := by
        refine Nat.le_zero.mp (nearestUnits_le representable_zero hPos ?_)
        rw [Nat.zero_mul, Nat.zero_mul]
      have hUp : (0 + (unitsPerOne - 1)) / unitsPerOne = 0 :=
        Nat.div_eq_of_lt (by have := unitsPerOne_pos; omega)
      simp only [Bool.bne_false, if_true]
      rw [hZero, hUp, Nat.zero_div]
      rw [Nat.zero_div] at hQuotient
      rw [roundUnits_whole true hQuotient]
      exact .negative 0 hQuotient

end Denotes

end DocQuery.Number
