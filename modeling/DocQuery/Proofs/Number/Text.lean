import Mathlib
import DocQuery.Number.Text
import DocQuery.Proofs.Text.Slice

/-!
The shortest text of a number reads back as the number. The count of units nearest to a numeral depends
on nothing but its value, which is held as a ratio, so that numerals are compared by multiplying
crosswise: a candidate that reads back still does when it is cut short, written out and read digit by
digit.
-/

namespace DocQuery.Number

/-- A common factor does not change how a quotient is rounded. -/
theorem roundHalfEven_mul_right {k : Nat} (hk : 0 < k) (n d : Nat) :
    roundHalfEven (n * k) (d * k) = roundHalfEven n d := by
  have hLess (a b : Nat) : 2 * (a * k) < b * k ↔ 2 * a < b := by
    rw [← Nat.mul_assoc]
    exact Nat.mul_lt_mul_right hk
  have hMore (a b : Nat) : b * k < 2 * (a * k) ↔ b < 2 * a := by
    rw [← Nat.mul_assoc]
    exact Nat.mul_lt_mul_right hk
  simp only [roundHalfEven, Nat.mul_div_mul_right _ _ hk, Nat.mul_mod_mul_right, hLess, hMore]

theorem nearestUnits_mul_right {k : Nat} (hk : 0 < k) (n d : Nat) :
    nearestUnits (n * k) (d * k) = nearestUnits n d := by
  simp only [nearestUnits, Nat.mul_div_mul_right _ _ hk, Nat.mul_right_comm d k,
    roundHalfEven_mul_right hk]

/-- Equal ratios have the same nearest count of units. -/
theorem nearestUnits_congr {n d n' d' : Nat} (hd : 0 < d) (hd' : 0 < d') (h : n * d' = n' * d) :
    nearestUnits n d = nearestUnits n' d' := by
  rw [← nearestUnits_mul_right hd' n d, h, Nat.mul_comm d d', nearestUnits_mul_right hd]

/-- Less than half a unit is nearest to none. -/
theorem nearestUnits_of_lt {n d : Nat} (h : 2 * n < d) : nearestUnits n d = 0 := by
  have hQuotient : n / d = 0 := Nat.div_eq_of_lt (by omega)
  have hRemainder : n % d = n := Nat.mod_eq_of_lt (by omega)
  have hStep : d * Nat.pow 2 ((n / d).log2 - 52) = d := by rw [hQuotient]; exact Nat.mul_one d
  rw [nearestUnits, hStep, roundHalfEven, hQuotient, hRemainder]
  simp [h]

/-- A representable count of units is nearest to itself. -/
theorem nearestUnits_of_representable {units : Nat} (h : Representable units) :
    nearestUnits units 1 = units := by
  have hPos : 0 < Nat.pow 2 (units.log2 - 52) := Nat.pow_pos (by decide)
  rw [nearestUnits, Nat.div_one, Nat.one_mul, roundHalfEven, h.2]
  simp only [Nat.mul_zero, if_pos hPos]
  exact Nat.div_mul_cancel (Nat.dvd_of_mod_eq_zero h.2)

end DocQuery.Number

namespace DocQuery

theorem natOfDigits_eq (digits : List Char) : natOfDigits digits = Nat.ofDigitChars 10 digits 0 := by
  rw [natOfDigits, Nat.ofDigitChars]
  simp only [Nat.mul_comm]

/-- Digits behind others count on from them. -/
theorem natOfDigits_append (cs rest : List Char) :
    natOfDigits (cs ++ rest) = 10 ^ rest.length * natOfDigits cs + natOfDigits rest := by
  rw [natOfDigits_eq, Nat.ofDigitChars_append, Nat.ofDigitChars_eq_ofDigitChars_zero, natOfDigits_eq,
    natOfDigits_eq]

/-- So many digits stay below that power of ten. -/
theorem natOfDigits_lt_pow {cs : List Char} (hDigits : ∀ c ∈ cs, c.isDigit = true) :
    natOfDigits cs < 10 ^ cs.length := by
  induction cs using List.reverseRecOn with
  | nil => exact Nat.one_pos
  | append_singleton rest c ih =>
      have hDigit := Char.isDigit_iff_toNat.mp (hDigits c (by simp))
      have hRest := ih fun x hMem => hDigits x (List.mem_append_left _ hMem)
      have hLast : natOfDigits [c] < 10 := by
        simp only [natOfDigits, List.foldl_cons, List.foldl_nil, Nat.zero_mul, Nat.zero_add]
        have hNine : '9'.toNat = 57 := rfl
        have hZero : '0'.toNat = 48 := rfl
        omega
      rw [natOfDigits_append, List.length_append, List.length_singleton, Nat.pow_succ]
      omega

end DocQuery

namespace DocQuery.Numeral

open Number

/-- The count of units nearest to a numeral. One of the two powers of ten is one. -/
def nearest (n : Numeral) : Nat :=
  nearestUnits (n.digits * 10 ^ n.exponent.toNat * unitsPerOne) (10 ^ (-n.exponent).toNat)

/-- Equal ratios are rounded to the same units. -/
theorem nearest_eq_of_ratio {n : Numeral} {above below : Nat} (hBelow : 0 < below)
    (h : n.digits * 10 ^ n.exponent.toNat * unitsPerOne * below = above * 10 ^ (-n.exponent).toNat) :
    n.nearest = nearestUnits above below :=
  nearestUnits_congr (Nat.pow_pos (by decide)) hBelow h

/-- Numerals of the same value are nearest to the same count of units. -/
theorem nearest_congr {n m : Numeral}
    (h : n.digits * 10 ^ n.exponent.toNat * 10 ^ (-m.exponent).toNat =
      m.digits * 10 ^ m.exponent.toNat * 10 ^ (-n.exponent).toNat) : n.nearest = m.nearest := by
  refine nearest_eq_of_ratio (Nat.pow_pos (by decide)) ?_
  rw [Nat.mul_right_comm, h, Nat.mul_right_comm]

/-- Trailing zeros do not change the nearest units. -/
theorem nearest_trim (fuel : Nat) (n : Numeral) : (n.trim fuel).nearest = n.nearest := by
  induction fuel generalizing n with
  | zero => rfl
  | succ fuel ih =>
      rw [trim]
      split
      · next hTen =>
          have hDigits : n.digits / 10 * 10 = n.digits :=
            Nat.div_mul_cancel (Nat.dvd_of_mod_eq_zero hTen.2)
          have hPlaces : (n.exponent + 1).toNat + (-n.exponent).toNat =
              1 + n.exponent.toNat + (-(n.exponent + 1)).toNat := by
            omega
          rw [ih]
          refine nearest_congr ?_
          dsimp only
          rw [Nat.mul_assoc, ← Nat.pow_add, hPlaces, Nat.pow_add, Nat.pow_add, Nat.pow_one,
            ← Nat.mul_assoc, ← Nat.mul_assoc, hDigits]
      · rfl

theorem unitsPerOne_eq : unitsPerOne = 2 ^ exactExponent := by
  decide +kernel

theorem unitsPerOne_pos : 0 < unitsPerOne := by
  rw [unitsPerOne_eq]
  exact Nat.pow_pos (by decide)

/-- Every unit is a decimal fraction of so many places. -/
theorem unitsPerOne_mul_five_pow : unitsPerOne * 5 ^ exactExponent = 10 ^ exactExponent := by
  rw [unitsPerOne_eq, ← Nat.mul_pow]

/-- A candidate whose grid answers reads back. -/
theorem nearest_of_readsBack {units digits cut : Nat} (h : readsBack units digits cut = true) :
    nearest ⟨digits, (cut : Int) - exactExponent⟩ = units := by
  have hPlaces : ((cut : Int) - exactExponent).toNat + exactExponent =
      cut + (-((cut : Int) - exactExponent)).toNat := by
    omega
  simp only [readsBack, beq_iff_eq, Nat.pow_eq] at h
  rw [← h]
  refine nearest_eq_of_ratio (Nat.pow_pos (by decide)) ?_
  rw [Nat.mul_assoc _ unitsPerOne, unitsPerOne_mul_five_pow, Nat.mul_assoc, ← Nat.pow_add, hPlaces,
    Nat.pow_add, Nat.mul_assoc]

/-- A grid answers with a candidate that reads back. -/
theorem readsBack_of_onGrid? {tie : Tie} {units whole cut : Nat} {n : Numeral}
    (h : onGrid? tie units whole cut = some n) :
    ∃ digits, readsBack units digits cut = true ∧ n = ⟨digits, (cut : Int) - exactExponent⟩ := by
  unfold onGrid? at h
  extract_lets step low twice numeral at h
  generalize hLow : readsBack units low cut = lowReads at h
  generalize hHigh : readsBack units (low + 1) cut = highReads at h
  have hFound (digits : Nat) (hReads : readsBack units digits cut = true)
      (hSome : some (numeral digits) = some n) :
      ∃ digits, readsBack units digits cut = true ∧ n = ⟨digits, (cut : Int) - exactExponent⟩ :=
    ⟨digits, hReads, (Option.some.inj hSome).symm⟩
  cases lowReads with
  | true =>
      cases highReads with
      | true =>
          dsimp only at h
          split at h
          · exact hFound _ hLow h
          · split at h
            · exact hFound _ hHigh h
            · cases tie with
              | up => exact hFound _ hHigh h
              | even =>
                  refine hFound _ ?_ h
                  split
                  · exact hLow
                  · exact hHigh
      | false => exact hFound _ hLow h
  | false =>
      cases highReads with
      | true => exact hFound _ hHigh h
      | false => cases h

/-- The numeral that is found on the grid is read back. -/
theorem nearest_of_onGrid? {tie : Tie} {units exact cut : Nat} {n : Numeral}
    (h : onGrid? tie units exact cut = some n) : n.nearest = units := by
  obtain ⟨digits, hReads, rfl⟩ := readsBack_of_onGrid? h
  exact nearest_of_readsBack hReads

/-- The exact numeral of units is read back. -/
theorem nearest_exactNumeral {units : Nat} (h : Representable units) :
    (exactNumeral units).nearest = units := by
  refine (nearest_eq_of_ratio Nat.one_pos ?_).trans (nearestUnits_of_representable h)
  have hWhole : (-(exactExponent : Int)).toNat = 0 := by omega
  have hPlaces : (- -(exactExponent : Int)).toNat = exactExponent := by omega
  simp only [exactNumeral, Nat.pow_eq, hWhole, hPlaces]
  rw [Nat.pow_zero, Nat.mul_one, Nat.mul_one, Nat.mul_assoc, Nat.mul_comm (5 ^ exactExponent),
    unitsPerOne_mul_five_pow]

theorem nearest_of_digits_eq_zero {n : Numeral} (h : n.digits = 0) : n.nearest = 0 := by
  refine nearestUnits_of_lt ?_
  rw [h, Nat.zero_mul, Nat.zero_mul]
  exact Nat.pow_pos (by decide)

/-- The shortest numeral reads back, whether a grid has a hit or the exact expansion is taken. -/
theorem nearest_shortest (tie : Tie) {units : Nat} (h : Representable units) :
    (shortest tie units).nearest = units := by
  rw [shortest]
  split
  · next hZero => rw [hZero, nearest_of_digits_eq_zero rfl]
  · dsimp only
    split
    · next n hFound =>
        obtain ⟨kept, _, hHit⟩ := List.exists_of_findSome?_eq_some hFound
        rw [nearest_trim, nearest_of_onGrid? hHit]
    · exact nearest_exactNumeral h

theorem digits_lt_pow (n : Nat) : n < 10 ^ decimalLength n :=
  (Nat.length_toDigits_le_iff (by decide) Nat.length_toDigits_pos).mp (Nat.le_refl _)

/-- Each decimal place has room for three binary ones. -/
theorem two_mul_unitsPerOne_le {places : Nat} (hPlaces : exactExponent + 1 ≤ 3 * places) :
    2 * unitsPerOne ≤ 10 ^ places :=
  calc 2 * unitsPerOne
      = 2 ^ (exactExponent + 1) := by rw [unitsPerOne_eq, Nat.pow_succ']
    _ ≤ 2 ^ (3 * places) := Nat.pow_le_pow_right (by decide) hPlaces
    _ = (2 ^ 3) ^ places := Nat.pow_mul 2 3 places
    _ ≤ 10 ^ places := Nat.pow_le_pow_left (by decide) places

/-- A numeral whose leading digit lies far behind the point is nearest to zero. -/
theorem nearest_of_far {n : Numeral} (h : n.exponent + decimalLength n.digits < -400) :
    n.nearest = 0 := by
  obtain ⟨far, hFar, hUnits⟩ : ∃ far, far = 400 ∧ 2 * unitsPerOne ≤ 10 ^ far :=
    ⟨_, rfl, two_mul_unitsPerOne_le (by decide)⟩
  have hNoPlaces : n.exponent.toNat = 0 := by omega
  have hPlaces : decimalLength n.digits + far ≤ (-n.exponent).toNat := by omega
  refine nearestUnits_of_lt ?_
  rw [hNoPlaces, Nat.pow_zero, Nat.mul_one]
  calc 2 * (n.digits * unitsPerOne)
      = n.digits * (2 * unitsPerOne) := Nat.mul_left_comm _ _ _
    _ ≤ n.digits * 10 ^ far := Nat.mul_le_mul_left _ hUnits
    _ < 10 ^ decimalLength n.digits * 10 ^ far :=
        Nat.mul_lt_mul_of_pos_right (digits_lt_pow _) (Nat.pow_pos (by decide))
    _ = 10 ^ (decimalLength n.digits + far) := (Nat.pow_add _ _ _).symm
    _ ≤ 10 ^ (-n.exponent).toNat := Nat.pow_le_pow_right (by decide) hPlaces

/-- A numeral that is nearest to units that can be stored stands for them. -/
theorem toNumber_eq (negative : Bool) {n : Numeral} {units : Nat} (hNearest : n.nearest = units)
    (fits : Representable units) (hWritten : n.exponent ≤ 0) :
    n.toNumber negative = .finite negative units fits := by
  have hZero (hNone : n.nearest = 0) : signedZero negative = .finite negative units fits := by
    cases hNearest.symm.trans hNone
    rfl
  rw [toNumber]
  split
  · next hDigits => exact hZero (nearest_of_digits_eq_zero hDigits)
  · rw [if_neg (by omega)]
    split
    · next hFar => exact hZero (nearest_of_far hFar)
    · split
      · next hWhole =>
          have hPlaces : (-n.exponent).toNat = 0 := by omega
          rw [nearest, hPlaces, Nat.pow_zero] at hNearest
          rw [ofRatio, roundUnits, Nat.pow_eq, hNearest, ofUnits, dif_pos fits]
      · next hFraction =>
          have hPlaces : n.exponent.toNat = 0 := by omega
          rw [nearest, hPlaces, Nat.pow_zero, Nat.mul_one] at hNearest
          rw [ofRatio, roundUnits, Nat.pow_eq, hNearest, ofUnits, dif_pos fits]

/-- The digits of a text without an exponent: those before a point, of which there is one at least, and
those behind it. Read as one numeral they have the value of the numeral that was written. -/
structure Spelled (n : Numeral) (whole fraction : List Char) : Prop where
  text : n.positional.toList = whole ++ if fraction = [] then [] else '.' :: fraction
  begins : whole ≠ []
  wholeDigits : ∀ c ∈ whole, c.isDigit = true
  fractionDigits : ∀ c ∈ fraction, c.isDigit = true
  value : nearest ⟨natOfDigits (whole ++ fraction), -(fraction.length : Int)⟩ = n.nearest

theorem isDigit_of_mem_zeros {count : Nat} : ∀ c ∈ List.replicate count '0', c.isDigit = true := by
  intro c hMem
  rw [List.eq_of_mem_replicate hMem]
  rfl

theorem isDigit_of_mem_toDigits {n : Nat} : ∀ c ∈ Nat.toDigits 10 n, c.isDigit = true :=
  fun _ hMem => Nat.isDigit_of_mem_toDigits (by decide) (by decide) hMem

/-- Every numeral is spelled with digits, and with a fraction where it has one. -/
theorem exists_spelled (n : Numeral) : ∃ whole fraction, n.Spelled whole fraction := by
  have hText := positional.eq_1 n
  have hValue : Nat.ofDigitChars 10 (Nat.toDigits 10 n.digits) 0 = n.digits :=
    Nat.ofDigitChars_ten_toDigits
  have hSome : Nat.toDigits 10 n.digits ≠ [] := Nat.toDigits_ne_nil
  have hDigits := @isDigit_of_mem_toDigits n.digits
  generalize Nat.toDigits 10 n.digits = digits at hText hValue hSome hDigits
  by_cases hWhole : 0 ≤ n.exponent
  · refine ⟨digits ++ List.replicate n.exponent.toNat '0', [], ?_, ?_, ?_, nofun, ?_⟩
    · rw [hText, if_pos hWhole, String.toList_ofList, if_pos rfl, List.append_nil]
    · exact List.append_ne_nil_of_left_ne_nil hSome _
    · exact List.forall_mem_append.mpr ⟨hDigits, isDigit_of_mem_zeros⟩
    · have hNoPlaces : (-n.exponent).toNat = 0 := by omega
      refine nearest_congr ?_
      rw [List.append_nil, natOfDigits_eq, Nat.ofDigitChars_append, hValue,
        Nat.ofDigitChars_replicate_zero, hNoPlaces]
      simp [Nat.mul_comm]
  -- Behind the point stand as many digits as the exponent asks for, so the numeral is read as it is.
  have hSame {fraction : List Char} (hLength : fraction.length = (-n.exponent).toNat) :
      (⟨n.digits, -(fraction.length : Int)⟩ : Numeral) = n := by
    rw [hLength, Int.toNat_of_nonneg (by omega), Int.neg_neg]
  generalize hPlaces : (-n.exponent).toNat = places at hText hSame
  by_cases hInside : places < digits.length
  · refine ⟨digits.take (digits.length - places), digits.drop (digits.length - places), ?_, ?_,
      fun c hMem => hDigits c (List.mem_of_mem_take hMem),
      fun c hMem => hDigits c (List.mem_of_mem_drop hMem), ?_⟩
    · rw [hText, if_neg hWhole, if_pos hInside, String.toList_ofList, if_neg]
      rw [List.drop_eq_nil_iff]
      omega
    · rw [Ne, List.take_eq_nil_iff, not_or]
      exact ⟨by omega, hSome⟩
    · have hLength : (digits.drop (digits.length - places)).length = places := by
        rw [List.length_drop]
        omega
      rw [List.take_append_drop, natOfDigits_eq, hValue, hSame hLength]
  · refine ⟨['0'], List.replicate (places - digits.length) '0' ++ digits, ?_, List.cons_ne_nil _ _,
      List.forall_mem_singleton.mpr rfl, List.forall_mem_append.mpr ⟨isDigit_of_mem_zeros, hDigits⟩, ?_⟩
    · rw [hText, if_neg hWhole, if_neg hInside, String.toList_ofList,
        if_neg (List.append_ne_nil_of_right_ne_nil _ hSome), List.singleton_append]
      rfl
    · have hLength : (List.replicate (places - digits.length) '0' ++ digits).length = places := by
        rw [List.length_append, List.length_replicate]
        omega
      rw [List.singleton_append, natOfDigits_eq, ← List.cons_append, ← List.replicate_succ,
        Nat.ofDigitChars_append, Nat.ofDigitChars_replicate_zero, Nat.mul_zero, hValue, hSame hLength]

end DocQuery.Numeral

namespace DocQuery.Number

/-- All digits at the front are split off. -/
theorem spanDigits_append {digits rest : List Char} (hDigits : ∀ c ∈ digits, c.isDigit = true)
    (hRest : ∀ c ∈ rest.head?, c.isDigit = false) :
    spanDigits (digits ++ rest) = (digits, rest) := by
  obtain ⟨hTake, hDrop⟩ := Text.span_append hDigits hRest
  rw [spanDigits, hTake, hDrop]

/-- The digits of a written numeral are read as the number that it is nearest to. -/
theorem readUnsigned?_spelled (negative : Bool) {n : Numeral} {whole fraction : List Char}
    (h : n.Spelled whole fraction) {units : Nat} (hNearest : n.nearest = units)
    (fits : Representable units) :
    readUnsigned? negative n.positional.toList = some (.finite negative units fits) := by
  have hValue := Numeral.toNumber_eq negative (h.value.trans hNearest) fits
    (Int.neg_nonpos_of_nonneg (by simp))
  have hBegins : whole.isEmpty = false := by simpa using h.begins
  rw [h.text, readUnsigned?]
  by_cases hFraction : fraction = []
  · subst hFraction
    rw [if_pos rfl, spanDigits_append h.wholeDigits (by simp)]
    simpa [readExponent?, hBegins] using hValue
  · have hPoint : ∀ c ∈ ('.' :: fraction).head?, c.isDigit = false := by
      rintro _ ⟨⟩
      rfl
    have hSpan := @spanDigits_append fraction [] h.fractionDigits (by simp)
    rw [List.append_nil] at hSpan
    rw [if_neg hFraction, spanDigits_append h.wholeDigits hPoint]
    simpa [readExponent?, hBegins, hSpan] using hValue

/-- The text shown of a number that is not zero is a sign and the digits of a numeral nearest to it. -/
theorem exists_display_eq (negative : Bool) {units : Nat} (fits : Representable units) (hSome : units ≠ 0) :
    ∃ n : Numeral, (Number.finite negative units fits).display = signText negative ++ n.positional ∧
      n.nearest = units := by
  have hText : ∃ n : Numeral,
      (Number.finite negative units fits).text = signText negative ++ n.positional ∧ n.nearest = units :=
    ⟨_, rfl, Numeral.nearest_shortest .up fits⟩
  rw [display, toInt?]
  dsimp only
  split
  · next hShort =>
      rw [Bool.and_eq_true, isWhole, beq_iff_eq] at hShort
      have hUnits : units / unitsPerOne * unitsPerOne = units :=
        Nat.div_mul_cancel (Nat.dvd_of_mod_eq_zero hShort.1)
      generalize units / unitsPerOne = count at hUnits
      have hCount : count ≠ 0 := by
        rintro rfl
        exact hSome (hUnits ▸ Nat.zero_mul _)
      refine ⟨⟨count, 0⟩, ?_, ?_⟩
      · have hDigits : toString count = (⟨count, 0⟩ : Numeral).positional := by
          rw [Nat.toString_eq_ofList_toDigits]
          simp [Numeral.positional]
        rw [← hDigits]
        cases negative with
        | false => exact (String.empty_append).symm
        | true =>
            obtain ⟨below, rfl⟩ := Nat.exists_eq_succ_of_ne_zero hCount
            rfl
      · refine (Numeral.nearest_eq_of_ratio Nat.one_pos ?_).trans (nearestUnits_of_representable fits)
        simpa using hUnits
  · exact hText

end DocQuery.Number
