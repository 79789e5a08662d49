import DocQuery.Proofs.Number.Rounding

/-!
Arithmetic without rounding. A ratio that is a representable count of units is taken as it is, so that a
sum with zero is the other operand, but for the sign of a zero.
-/

namespace DocQuery.Number

/-! ### Results that fit -/

/-- A ratio that is a representable count of units is not rounded. -/
theorem roundUnits_of_eq {negative : Bool} {n d units : Nat} (fits : Representable units) (hd : 0 < d)
    (h : n = units * d) : roundUnits negative n d = .finite negative units fits := by
  have hRatio : n * 1 = units * d := by rw [Nat.mul_one, h]
  rw [roundUnits, nearestUnits_congr hd Nat.one_pos hRatio, nearestUnits_of_representable fits, ofUnits,
    dif_pos fits]

/-- A number of units that can be stored is stored as it is. -/
theorem ofSignedUnits_of_representable {i : Int} (fits : Representable i.natAbs) (zeroSign : Bool) :
    ofSignedUnits zeroSign i 1 =
      .finite (if i = 0 then zeroSign else decide (i < 0)) i.natAbs fits :=
  roundUnits_of_eq fits Nat.one_pos (Nat.mul_one _).symm

theorem natAbs_signedUnits (negative : Bool) (units : Nat) : (signedUnits negative units).natAbs = units := by
  cases negative
  · exact Int.natAbs_natCast units
  · exact (Int.natAbs_neg _).trans (Int.natAbs_natCast units)

/-! ### Sums with zero -/

/-- The number with zero in place of the negative zero. -/
def dropZeroSign (n : Number) : Number := if n.isZero then signedZero false else n

theorem ofNat_eq (n : Nat) : (OfNat.ofNat n : Number) = ofNat n := rfl

theorem zero_eq : (0 : Number) = signedZero false := by
  rw [ofNat_eq, ofNat, ofRatio, Nat.zero_mul,
    roundUnits_of_eq representable_zero Nat.one_pos (Nat.zero_mul 1).symm, signedZero]

/-- The sum of finite numbers, in units. -/
theorem add_finite {n m : Bool} {a b : Nat} (ha : Representable a) (hb : Representable b) :
    Number.finite n a ha + .finite m b hb =
      ofSignedUnits (n && m) (signedUnits n a + signedUnits m b) 1 := by
  show Number.add _ _ = _
  rw [Number.add]

/-- The product of finite numbers, in units. -/
theorem mul_finite {n m : Bool} {x y : Nat} (hx : Representable x) (hy : Representable y) :
    Number.finite n x hx * .finite m y hy = roundUnits (n != m) (x * y) unitsPerOne := by
  show Number.mul _ _ = _
  rw [Number.mul]

/-- Taken apart and put together, a number keeps all but the sign of zero. -/
theorem ofSignedUnits_signedUnits {negative : Bool} {units : Nat} (fits : Representable units) :
    ofSignedUnits false (signedUnits negative units) 1 =
      (Number.finite negative units fits).dropZeroSign := by
  have hFits : Representable (signedUnits negative units).natAbs := by rwa [natAbs_signedUnits]
  rw [ofSignedUnits_of_representable hFits, dropZeroSign, isZero]
  rcases Nat.eq_zero_or_pos units with rfl | hPos
  · cases negative <;> rfl
  · have hSome : (units == 0) = false := beq_eq_false_iff_ne.mpr hPos.ne'
    rw [hSome]
    cases negative <;> simp [signedUnits, hPos, hPos.ne']

/-- Adding zero keeps all but the sign of zero. -/
theorem add_zero_of_isFinite {n : Number} (hFinite : n.isFinite = true) : n + 0 = n.dropZeroSign := by
  cases n with
  | nan => cases hFinite
  | infinity _ => cases hFinite
  | finite negative units fits =>
      have hSum : signedUnits negative units + signedUnits false 0 = signedUnits negative units :=
        Int.add_zero _
      rw [zero_eq, signedZero, add_finite, hSum, Bool.and_false, ofSignedUnits_signedUnits fits]

theorem zero_add_of_isFinite {n : Number} (hFinite : n.isFinite = true) : 0 + n = n.dropZeroSign := by
  cases n with
  | nan => cases hFinite
  | infinity _ => cases hFinite
  | finite negative units fits =>
      have hSum : signedUnits false 0 + signedUnits negative units = signedUnits negative units :=
        Int.zero_add _
      rw [zero_eq, signedZero, add_finite, hSum, Bool.false_and, ofSignedUnits_signedUnits fits]

end DocQuery.Number
