import Mathlib.Tactic.Ring
import DocQuery.Proofs.Number.Text

/-!
Rounding stays where numbers are. A rounded count of units has no bits beyond the leading 53, and it does
not pass a representable count above the ratio, so that nothing overflows below such a count.
-/

namespace DocQuery.Number

/-- Rounding adds one at most. -/
theorem roundHalfEven_le_succ (n d : Nat) : roundHalfEven n d ≤ n / d + 1 := by
  unfold roundHalfEven
  dsimp only
  split_ifs <;> omega

/-- Rounding does not pass a whole number above the ratio. -/
theorem roundHalfEven_le {n d k : Nat} (hd : 0 < d) (h : n ≤ k * d) : roundHalfEven n d ≤ k := by
  rcases Nat.lt_or_eq_of_le h with hLess | rfl
  · exact (roundHalfEven_le_succ n d).trans ((Nat.div_lt_iff_lt_mul hd).mpr hLess)
  · rw [roundHalfEven, Nat.mul_mod_left, Nat.mul_zero, if_pos hd, Nat.mul_div_cancel k hd]

/-- A significand of 53 bits, or the next power of two, shifted to the left. -/
theorem mod_two_pow_of_le {m shift : Nat} (h : m ≤ 2 ^ 53) :
    m * 2 ^ shift % 2 ^ ((m * 2 ^ shift).log2 - 52) = 0 := by
  rcases Nat.lt_or_eq_of_le h with hLess | rfl
  · rcases Nat.eq_zero_or_pos m with rfl | hPos
    · rw [Nat.zero_mul, Nat.zero_mod]
    · have hSome : m * 2 ^ shift ≠ 0 := Nat.mul_ne_zero hPos.ne' (Nat.pow_pos (by decide)).ne'
      have hLog : (m * 2 ^ shift).log2 < 53 + shift := by
        rw [Nat.log2_lt hSome, Nat.pow_add]
        exact Nat.mul_lt_mul_of_pos_right hLess (Nat.pow_pos (by decide))
      exact Nat.mod_eq_zero_of_dvd ((Nat.pow_dvd_pow 2 (by omega)).mul_left m)
  · rw [← Nat.pow_add, Nat.log2_two_pow]
    exact Nat.mod_eq_zero_of_dvd (Nat.pow_dvd_pow 2 (by omega))

/-- The significand that a ratio is rounded to. -/
theorem roundHalfEven_step_le (n d : Nat) :
    roundHalfEven n (d * 2 ^ ((n / d).log2 - 52)) ≤ 2 ^ 53 := by
  refine (roundHalfEven_le_succ _ _).trans ?_
  rw [← Nat.div_div_eq_div_mul, Nat.succ_le_iff, Nat.div_lt_iff_lt_mul (Nat.pow_pos (by decide)),
    ← Nat.pow_add]
  exact Nat.lt_log2_self.trans_le (Nat.pow_le_pow_right (by decide) (by omega))

/-- What was rounded to units can be stored. -/
theorem representable_nearestUnits {n d : Nat} (h : nearestUnits n d < unitLimit) :
    Representable (nearestUnits n d) :=
  ⟨h, mod_two_pow_of_le (roundHalfEven_step_le n d)⟩

theorem log2_le_log2 {n m : Nat} (h : n ≤ m) : n.log2 ≤ m.log2 := by
  rcases Nat.eq_zero_or_pos n with rfl | hPos
  · rw [Nat.log2_zero]
    exact Nat.zero_le _
  · exact (Nat.le_log2 (by omega)).mpr ((Nat.log2_self_le hPos.ne').trans h)

/-- Rounding does not pass a representable count above the ratio. -/
theorem nearestUnits_le {n d units : Nat} (hUnits : Representable units) (hd : 0 < d)
    (h : n ≤ units * d) : nearestUnits n d ≤ units := by
  have hQuotient : n / d ≤ units := Nat.div_le_of_le_mul (by rwa [Nat.mul_comm])
  -- A representable count is a multiple of every step below it.
  obtain ⟨count, hCount⟩ : 2 ^ ((n / d).log2 - 52) ∣ units :=
    (Nat.pow_dvd_pow 2 (Nat.sub_le_sub_right (log2_le_log2 hQuotient) 52)).trans
      (Nat.dvd_of_mod_eq_zero hUnits.2)
  generalize hStep : 2 ^ ((n / d).log2 - 52) = step at hCount
  have hPos : 0 < step := hStep ▸ Nat.pow_pos (by decide)
  have hRounded : roundHalfEven n (d * step) ≤ count := by
    refine roundHalfEven_le (Nat.mul_pos hd hPos) (h.trans (Nat.le_of_eq ?_))
    rw [hCount]
    ring
  calc nearestUnits n d = roundHalfEven n (d * step) * step := by rw [nearestUnits, Nat.pow_eq, hStep]
    _ ≤ count * step := Nat.mul_le_mul_right step hRounded
    _ = units := by rw [hCount, Nat.mul_comm]

theorem div_le_roundHalfEven (n d : Nat) : n / d ≤ roundHalfEven n d := by
  unfold roundHalfEven
  dsimp only
  split_ifs <;> omega

/-- Cutting off the bits beyond the leading 53 does not pass a representable count below. -/
theorem le_div_mul_step {units q : Nat} (hUnits : Representable units) (h : units ≤ q) :
    units ≤ q / 2 ^ (q.log2 - 52) * 2 ^ (q.log2 - 52) := by
  rcases Nat.eq_zero_or_pos units with rfl | hPos
  · exact Nat.zero_le _
  have hDivides {k : Nat} (hLess : k ≤ q) (hStep : 2 ^ (q.log2 - 52) ∣ k) :
      k ≤ q / 2 ^ (q.log2 - 52) * 2 ^ (q.log2 - 52) := by
    rw [← Nat.div_mul_cancel hStep]
    exact Nat.mul_le_mul_right _ (Nat.div_le_div_right hLess)
  rcases Nat.lt_or_eq_of_le (log2_le_log2 h) with hLess | hEq
  · -- The leading power of two lies between them.
    have hLeading : units ≤ 2 ^ q.log2 := ((Nat.log2_lt hPos.ne').mp hLess).le
    exact hLeading.trans (hDivides (Nat.log2_self_le (by omega)) (Nat.pow_dvd_pow 2 (by omega)))
  · exact hDivides h (hEq ▸ Nat.dvd_of_mod_eq_zero hUnits.2)

/-- Rounding does not pass a representable count below the ratio. -/
theorem le_nearestUnits {n d units : Nat} (hUnits : Representable units) (hd : 0 < d)
    (h : units * d ≤ n) : units ≤ nearestUnits n d := by
  have hQuotient : units ≤ n / d := (Nat.le_div_iff_mul_le hd).mpr h
  refine (le_div_mul_step hUnits hQuotient).trans (Nat.mul_le_mul_right _ ?_)
  rw [Nat.div_div_eq_div_mul]
  exact div_le_roundHalfEven _ _

/-- A ratio that a representable count is above of rounds to a finite number. -/
theorem isFinite_roundUnits {negative : Bool} {n d units : Nat} (hUnits : Representable units)
    (hd : 0 < d) (h : n ≤ units * d) : (roundUnits negative n d).isFinite = true := by
  have hFits : Representable (nearestUnits n d) :=
    representable_nearestUnits ((nearestUnits_le hUnits hd h).trans_lt hUnits.1)
  rw [roundUnits, ofUnits, dif_pos hFits, isFinite]

/-- Whole numbers up to one that can be stored are finite. -/
theorem isFinite_ofRatio {negative : Bool} {n limit : Nat} (hLimit : Representable (limit * unitsPerOne))
    (h : n ≤ limit) : (ofRatio negative n 1).isFinite = true :=
  isFinite_roundUnits hLimit Nat.one_pos (by
    rw [Nat.mul_one]
    exact Nat.mul_le_mul_right unitsPerOne h)

/-- A whole number of 53 bits, shifted to the left by at most 970. -/
theorem representable_mul_two_pow {m shift : Nat} (hm : m ≤ 2 ^ 53) (hShift : shift ≤ 970) :
    Representable (m * 2 ^ shift * unitsPerOne) := by
  rw [Numeral.unitsPerOne_eq, Nat.mul_assoc, ← Nat.pow_add]
  refine ⟨?_, mod_two_pow_of_le hm⟩
  have hExponent : exactExponent = 1074 := rfl
  calc m * 2 ^ (shift + exactExponent) ≤ 2 ^ 53 * 2 ^ (shift + exactExponent) := Nat.mul_le_mul_right _ hm
    _ = 2 ^ (53 + (shift + exactExponent)) := (Nat.pow_add ..).symm
    _ < unitLimit := by
      delta unitLimit
      apply Nat.pow_lt_pow_right <;> omega

/-- Whole numbers of 53 bits can be stored. -/
theorem representable_whole {count : Nat} (h : count ≤ 2 ^ 53) : Representable (count * unitsPerOne) := by
  have hShifted := representable_mul_two_pow h (Nat.zero_le 970)
  rwa [Nat.pow_zero, Nat.mul_one] at hShifted

/-- Powers of two can be stored, up to the largest. -/
theorem representable_two_pow {exponent : Nat} (h : exponent ≤ 970) :
    Representable (2 ^ exponent * unitsPerOne) := by
  have hShifted := representable_mul_two_pow (by decide : 1 ≤ 2 ^ 53) h
  rwa [Nat.one_mul] at hShifted

theorem isFinite_ofInt {i : Int} (h : i.natAbs ≤ 2 ^ 64) : (ofInt i).isFinite = true :=
  isFinite_ofRatio (representable_two_pow (by decide)) h

theorem isFinite_ofNat {n : Nat} (h : n ≤ 2 ^ 64) : (ofNat n).isFinite = true :=
  isFinite_ofRatio (representable_two_pow (by decide)) h

theorem isFinite_neg (a : Number) : (-a).isFinite = a.isFinite := by
  cases a <;> rfl

theorem div_finite {n m : Bool} {a b : Nat} (ha : Representable a) (hb : Representable b) (hSome : b ≠ 0) :
    Number.finite n a ha / .finite m b hb = roundUnits (n != m) (a * unitsPerOne) b :=
  if_neg hSome

/-- A quotient by one or more is finite. -/
theorem isFinite_div {a b : Number} (ha : a.isFinite = true)
    (hb : ∃ negative units fits, b = .finite negative units fits ∧ unitsPerOne ≤ units) :
    (a / b).isFinite = true := by
  obtain ⟨negative, units, fits, rfl, hUnits⟩ := hb
  have hPos : 0 < units := Numeral.unitsPerOne_pos.trans_le hUnits
  cases a with
  | nan => cases ha
  | infinity _ => cases ha
  | finite other above hAbove =>
      rw [div_finite hAbove fits hPos.ne']
      exact isFinite_roundUnits hAbove hPos (Nat.mul_le_mul_left above hUnits)

/-- A power of ten that a number can hold is one or more. -/
theorem exists_ofNat_ten_pow {exponent : Nat} (h : exponent ≤ 308) :
    ∃ negative units fits, ofNat (Nat.pow 10 exponent) = .finite negative units fits ∧
      unitsPerOne ≤ units := by
  have hLimit : Representable (3 * 2 ^ 1022 * unitsPerOne) := by decide +kernel
  have hOne : Representable unitsPerOne := by
    have hWhole := representable_whole (by decide : 1 ≤ 2 ^ 53)
    rwa [Nat.one_mul] at hWhole
  obtain ⟨top, hTop, hBound⟩ : ∃ top, top = 308 ∧ Nat.pow 10 top ≤ 3 * 2 ^ 1022 :=
    ⟨_, rfl, by decide +kernel⟩
  have hMost : Nat.pow 10 exponent ≤ 3 * 2 ^ 1022 :=
    (Nat.pow_le_pow_right (by decide) (hTop ▸ h)).trans hBound
  have hUnits : nearestUnits (Nat.pow 10 exponent * unitsPerOne) 1 ≤ 3 * 2 ^ 1022 * unitsPerOne :=
    nearestUnits_le hLimit Nat.one_pos (by
      rw [Nat.mul_one]
      exact Nat.mul_le_mul_right unitsPerOne hMost)
  have hFits := representable_nearestUnits (hUnits.trans_lt hLimit.1)
  refine ⟨false, _, hFits, ?_, le_nearestUnits hOne Nat.one_pos ?_⟩
  · rw [ofNat, ofRatio, roundUnits, ofUnits, dif_pos hFits]
  · rw [Nat.mul_one]
    exact Nat.le_mul_of_pos_left _ (Nat.pow_pos (by decide))

end DocQuery.Number
