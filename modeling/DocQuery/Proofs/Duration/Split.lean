import DocQuery.Duration.Basic
import DocQuery.Proofs.Number.Whole

/-!
Spans of whole milliseconds. Up to `2 ^ 53` every intermediate number is a whole number that is exact, so
that splitting milliseconds into larger units and adding them up again is integer arithmetic. Moving a date
by such a span moves it by the milliseconds, because no month takes part.
-/

namespace DocQuery

open Number

namespace Duration

/-- Counts that milliseconds are split into: no months and no weeks, every part on the side of the whole,
and of every part less than the next unit holds. -/
structure SplitsMillis (counts : DurationUnit → Int) (total : Int) : Prop where
  calendar : counts .year = 0 ∧ counts .month = 0 ∧ counts .week = 0
  side : ∀ unit, counts unit = 0 ∨ (counts unit).sign = total.sign
  hours : (counts .hour).natAbs < 24
  minutes : (counts .minute).natAbs < 60
  seconds : (counts .second).natAbs < 60
  milliseconds : (counts .millisecond).natAbs < 1000
  sum : (DurationUnit.all.map fun unit => counts unit * unit.millis).sum = total

/-- A span has the given whole counts. -/
def HasCounts (d : Duration) (counts : DurationUnit → Int) : Prop :=
  ∀ unit, Denotes (d.count unit) (counts unit)

/-! ### Splitting -/

theorem denotes_millis (unit : DurationUnit) : Denotes (ofNat unit.millis) unit.millis :=
  denotes_ofNat (representable_whole (by cases unit <;> decide))

/-- The whole counts of a unit and the rest are quotient and remainder. -/
theorem denotes_splitOff {unit : DurationUnit} (hUnit : unit.millis % 2 = 0) {rest : Number} {n : Nat}
    (h : Denotes rest n) (hn : n ≤ 2 ^ 53) :
    Denotes (splitOff unit rest).1 ↑(n / unit.millis) ∧
      Denotes (splitOff unit rest).2 ↑(n % unit.millis) := by
  have hPos : 0 < unit.millis := by cases unit <;> decide
  have hCount := h.floor_div (denotes_millis unit) hn (by cases unit <;> decide) hUnit hPos
  have hTaken : n / unit.millis * unit.millis ≤ n := Nat.div_mul_le_self n _
  have hRest : (n : Int) - ↑(n / unit.millis) * ↑unit.millis = ↑(n % unit.millis) := by
    rw [← Int.natCast_mul, ← Int.natCast_sub hTaken, Nat.mod_eq_sub_div_mul]
  refine ⟨hCount, ?_⟩
  rw [← hRest]
  refine h.sub (hCount.mul (denotes_millis unit) ?_) ?_
  · rw [← Int.natCast_mul, Int.natAbs_natCast]
    omega
  · rw [hRest, Int.natAbs_natCast]
    exact (Nat.mod_le _ _).trans hn

/-- The count of each unit in a number of milliseconds. -/
def wholeCount (total : Nat) : DurationUnit → Nat
  | .day => total / 86400000
  | .hour => total % 86400000 / 3600000
  | .minute => total % 86400000 % 3600000 / 60000
  | .second => total % 86400000 % 3600000 % 60000 / 1000
  | .millisecond => total % 86400000 % 3600000 % 60000 % 1000
  | _ => 0

/-- The side of zero that a number of milliseconds lies on, with zero on the upper side. -/
def sideOf (total : Int) : Int := if total < 0 then -1 else 1

/-- The side of a total only gives a count its sign. -/
theorem natAbs_sideOf_mul (total : Int) (n : Nat) : (sideOf total * n).natAbs = n := by
  unfold sideOf
  split <;> omega

/-- The counts of the units split a number of milliseconds, and none of them goes to months or years. -/
theorem splitsMillis_wholeCount (total : Int) :
    SplitsMillis (fun unit => sideOf total * wholeCount total.natAbs unit) total where
  calendar := ⟨Int.mul_zero _, Int.mul_zero _, Int.mul_zero _⟩
  side unit := by
    rcases Nat.eq_zero_or_pos (wholeCount total.natAbs unit) with hNone | hSome
    · exact .inl (by rw [hNone]; exact Int.mul_zero _)
    · have hTotal : total ≠ 0 := by
        rintro rfl
        cases unit <;> cases hSome
      rw [sideOf]
      split
      · next hBelow =>
          rw [Int.sign_eq_neg_one_of_neg hBelow]
          exact .inr (Int.sign_eq_neg_one_of_neg (by omega))
      · next hAbove =>
          rw [Int.sign_eq_one_of_pos (by omega : 0 < total)]
          exact .inr (Int.sign_eq_one_of_pos (by omega))
  hours := by
    rw [natAbs_sideOf_mul, wholeCount]
    omega
  minutes := by
    rw [natAbs_sideOf_mul, wholeCount]
    omega
  seconds := by
    rw [natAbs_sideOf_mul, wholeCount]
    omega
  milliseconds := by
    rw [natAbs_sideOf_mul, wholeCount]
    omega
  sum := by
    simp only [DurationUnit.all, List.map_cons, List.map_nil, List.sum_cons, List.sum_nil, wholeCount,
      DurationUnit.millis, sideOf]
    split <;> omega

theorem denotes_one : Denotes (1 : Number) 1 :=
  denotes_ofNat (representable_whole (by decide))

/-- Whole milliseconds are split exactly. -/
theorem hasCounts_ofMillis {total : Number} {t : Int} (h : Denotes total t) (ht : t.natAbs ≤ 2 ^ 53) :
    HasCounts (ofMillis total) (fun unit => sideOf t * wholeCount t.natAbs unit) := by
  obtain ⟨hDays, hDayRest⟩ := denotes_splitOff (by decide : DurationUnit.day.millis % 2 = 0) h.abs ht
  have hDayLess := (Nat.mod_le t.natAbs DurationUnit.day.millis).trans ht
  obtain ⟨hHours, hHourRest⟩ :=
    denotes_splitOff (by decide : DurationUnit.hour.millis % 2 = 0) hDayRest hDayLess
  have hHourLess := (Nat.mod_le _ DurationUnit.hour.millis).trans hDayLess
  obtain ⟨hMinutes, hMinuteRest⟩ :=
    denotes_splitOff (by decide : DurationUnit.minute.millis % 2 = 0) hHourRest hHourLess
  have hMinuteLess := (Nat.mod_le _ DurationUnit.minute.millis).trans hHourLess
  obtain ⟨hSeconds, hSecondRest⟩ :=
    denotes_splitOff (by decide : DurationUnit.second.millis % 2 = 0) hMinuteRest hMinuteLess
  have hMillis : Denotes (splitOff .second _).2.round _ := hSecondRest.round_eq.symm ▸ hSecondRest
  have hSide : Denotes (if total.isNegative then -1 else 1) (sideOf t) := by
    rw [h.isNegative, sideOf]
    by_cases hBelow : t < 0
    · simp only [hBelow, decide_true, if_true]
      exact denotes_one.neg
    · simp only [hBelow, decide_false, Bool.false_eq_true, if_false]
      exact denotes_one
  have hPart {unit : DurationUnit} {n : Number}
      (hn : Denotes n ↑(wholeCount t.natAbs unit)) :
      Denotes ((if total.isNegative then -1 else 1) * n) (sideOf t * wholeCount t.natAbs unit) := by
    refine hSide.mul hn ?_
    rw [natAbs_sideOf_mul]
    refine Nat.le_trans ?_ ht
    cases unit <;> simp only [wholeCount] <;> omega
  have hNone {unit : DurationUnit} (hZero : wholeCount t.natAbs unit = 0) :
      Denotes 0 (sideOf t * wholeCount t.natAbs unit) := by
    rw [hZero, Int.natCast_zero, Int.mul_zero, zero_eq]
    exact denotes_signedZero false
  intro unit
  cases unit with
  | year => exact hNone rfl
  | month => exact hNone rfl
  | week => exact hNone rfl
  | day => exact hPart hDays
  | hour => exact hPart hHours
  | minute => exact hPart hMinutes
  | second => exact hPart hSeconds
  | millisecond => exact hPart hMillis

/-! ### Adding up -/

variable {d : Duration} {counts : DurationUnit → Int} {total : Int}

/-- The parts lie on one side of zero, so that no sum of some of them passes the whole. -/
theorem SplitsMillis.parts (h : SplitsMillis counts total) :
    (∀ unit, 0 ≤ counts unit * unit.millis) ∨ ∀ unit, counts unit * unit.millis ≤ 0 := by
  rcases Int.lt_or_le total 0 with hBelow | hAbove
  · refine .inr fun unit => Int.mul_nonpos_of_nonpos_of_nonneg ?_ (Int.natCast_nonneg _)
    rcases h.side unit with hNone | hSide
    · exact hNone.le
    · rw [Int.sign_eq_neg_one_of_neg hBelow] at hSide
      exact (Int.sign_eq_neg_one_iff_neg.mp hSide).le
  · refine .inl fun unit => Int.mul_nonneg ?_ (Int.natCast_nonneg _)
    rcases h.side unit with hNone | hSide
    · exact hNone.ge
    · exact Int.sign_nonneg_iff.mp (hSide ▸ Int.sign_nonneg_iff.mpr hAbove)

/-- The milliseconds of the units, which are zero for years, months and weeks. -/
theorem SplitsMillis.sum_eq (h : SplitsMillis counts total) :
    counts .day * DurationUnit.day.millis + counts .hour * DurationUnit.hour.millis +
      counts .minute * DurationUnit.minute.millis + counts .second * DurationUnit.second.millis +
      counts .millisecond = total := by
  obtain ⟨hYears, hMonths, hWeeks⟩ := h.calendar
  rw [← h.sum]
  simp only [DurationUnit.all, List.map_cons, List.map_nil, List.sum_cons, List.sum_nil, hYears, hMonths,
    hWeeks, DurationUnit.millis]
  omega

/-- The length of the counts of one unit is exact as long as it is small. -/
theorem denotes_unitMillis (hCounts : d.HasCounts counts) {unit : DurationUnit} {part : Int}
    (hPart : counts unit * unit.millis = part) (hBound : part.natAbs ≤ 2 ^ 53) :
    Denotes (d.unitMillis unit) part := by
  rw [← hPart] at hBound ⊢
  exact (hCounts unit).mul (denotes_millis unit) hBound

/-- The parts below weeks add up to the whole. No partial sum is rounded, because the parts lie on one side
of zero and none of their sums passes the whole. -/
theorem denotes_elapsed (hSplit : SplitsMillis counts total) (hTotal : total.natAbs ≤ 2 ^ 53)
    (hCounts : d.HasCounts counts) {start : Number} (hStart : Denotes start 0) :
    Denotes (start + d.unitMillis .day + d.unitMillis .hour + d.unitMillis .minute +
      d.unitMillis .second + d.milliseconds) total := by
  have hSum := hSplit.sum_eq
  obtain ⟨day, hDay⟩ : ∃ part, counts .day * DurationUnit.day.millis = part := ⟨_, rfl⟩
  obtain ⟨hour, hHour⟩ : ∃ part, counts .hour * DurationUnit.hour.millis = part := ⟨_, rfl⟩
  obtain ⟨minute, hMinute⟩ : ∃ part, counts .minute * DurationUnit.minute.millis = part := ⟨_, rfl⟩
  obtain ⟨second, hSecond⟩ : ∃ part, counts .second * DurationUnit.second.millis = part := ⟨_, rfl⟩
  have hMilli : counts .millisecond * DurationUnit.millisecond.millis = counts .millisecond := Int.mul_one _
  have hSide : (0 ≤ day ∧ 0 ≤ hour ∧ 0 ≤ minute ∧ 0 ≤ second ∧ 0 ≤ counts .millisecond) ∨
      (day ≤ 0 ∧ hour ≤ 0 ∧ minute ≤ 0 ∧ second ≤ 0 ∧ counts .millisecond ≤ 0) := by
    rcases hSplit.parts with hAbove | hBelow
    · exact .inl ⟨hDay ▸ hAbove .day, hHour ▸ hAbove .hour, hMinute ▸ hAbove .minute,
        hSecond ▸ hAbove .second, hMilli ▸ hAbove .millisecond⟩
    · exact .inr ⟨hDay ▸ hBelow .day, hHour ▸ hBelow .hour, hMinute ▸ hBelow .minute,
        hSecond ▸ hBelow .second, hMilli ▸ hBelow .millisecond⟩
  rw [hDay, hHour, hMinute, hSecond] at hSum
  have hChain : 0 + day + hour + minute + second + counts .millisecond = total := by omega
  rw [← hChain]
  have hDays := hStart.add (denotes_unitMillis hCounts hDay (by omega)) (by omega)
  have hHours := hDays.add (denotes_unitMillis hCounts hHour (by omega)) (by omega)
  have hMinutes := hHours.add (denotes_unitMillis hCounts hMinute (by omega)) (by omega)
  have hSeconds := hMinutes.add (denotes_unitMillis hCounts hSecond (by omega)) (by omega)
  exact hSeconds.add (hCounts .millisecond) (by omega)

/-- The length of the parts is the whole. -/
theorem denotes_toMillis (hSplit : SplitsMillis counts total) (hTotal : total.natAbs ≤ 2 ^ 53)
    (hCounts : d.HasCounts counts) : Denotes d.toMillis total := by
  obtain ⟨hYears, hMonths, hWeeks⟩ := hSplit.calendar
  have hNone {unit : DurationUnit} (hZero : counts unit = 0) : Denotes (d.unitMillis unit) 0 :=
    denotes_unitMillis hCounts (by rw [hZero, Int.zero_mul]) (by decide)
  refine denotes_elapsed hSplit hTotal hCounts ?_
  exact ((hNone hYears).add (hNone hMonths) (by decide)).add (hNone hWeeks) (by decide)

end Duration

/-! ### Moving a date -/

namespace Date

open Duration

variable {span : Duration} {counts : DurationUnit → Int} {total : Int} {sign : Number} {s : Int}

/-- A span that splits milliseconds moves no months. -/
theorem denotes_monthsOf (hSplit : SplitsMillis counts total) (hCounts : span.HasCounts counts)
    (hSign : Denotes sign s) : Denotes (monthsOf span sign) 0 := by
  obtain ⟨hYears, hMonths, _⟩ := hSplit.calendar
  have hTwelve : Denotes (12 : Number) 12 := denotes_ofNat (representable_whole (by decide))
  have hYear : Denotes span.years 0 := hYears ▸ hCounts .year
  have hMonth : Denotes span.months 0 := hMonths ▸ hCounts .month
  have hSum : Denotes (span.years * 12 + span.months) (0 * 12 + 0) :=
    (hYear.mul hTwelve (by decide)).add hMonth (by decide)
  have hProduct := hSign.mul hSum (by omega)
  rwa [show s * (0 * 12 + 0) = 0 by omega] at hProduct

/-- The lengths of all units come to the whole number of milliseconds. -/
theorem denotes_millisOf (hSplit : SplitsMillis counts total) (hTotal : total.natAbs ≤ 2 ^ 53)
    (hCounts : span.HasCounts counts) (hSign : Denotes sign s) (hUnit : s = 1 ∨ s = -1) :
    Denotes (millisOf span sign) (s * total) := by
  obtain ⟨_, _, hWeeks⟩ := hSplit.calendar
  have hMonths := denotes_monthsOf hSplit hCounts hSign
  have hThirty : Denotes (30 : Number) 30 := denotes_ofNat (representable_whole (by decide))
  have hWhole : Denotes (monthsOf span sign - (monthsOf span sign).trunc) (0 - 0) :=
    hMonths.sub (hMonths.trunc_eq.symm ▸ hMonths) (by decide)
  have hLeftover : Denotes ((monthsOf span sign - (monthsOf span sign).trunc) * 30 *
      ofNat DurationUnit.day.millis) ((0 - 0) * 30 * DurationUnit.day.millis) :=
    (hWhole.mul hThirty (by decide)).mul (denotes_millis .day) (by decide)
  have hWeek : Denotes (span.unitMillis .week) 0 :=
    denotes_unitMillis hCounts (by rw [hWeeks, Int.zero_mul]) (by decide)
  have hElapsed := hSign.mul (denotes_elapsed hSplit hTotal hCounts hWeek) (by
    rcases hUnit with rfl | rfl <;> omega)
  have hMillis := hElapsed.add hLeftover (by rcases hUnit with rfl | rfl <;> omega)
  rw [show s * total + (0 - 0) * 30 * (DurationUnit.day.millis : Int) = s * total by omega] at hMillis
  rw [millisOf]
  exact hMillis.round_eq.symm ▸ hMillis

/-- A span of whole milliseconds moves a date by them. -/
theorem shift?_eq_addNanos? (hSplit : SplitsMillis counts total) (hTotal : total.natAbs ≤ 2 ^ 53)
    (hCounts : span.HasCounts counts) (hSign : Denotes sign s) (hUnit : s = 1 ∨ s = -1) (d : Date) :
    d.shift? span sign = d.addNanos? (s * total * nanosPerMilli) := by
  have hMonths := denotes_monthsOf hSplit hCounts hSign
  have hMillis := denotes_millisOf hSplit hTotal hCounts hSign hUnit
  have hMost : Denotes (ofNat maxMonths) maxMonths := denotes_ofNat (representable_whole (by decide))
  obtain ⟨limit, hPow, hFits⟩ : ∃ limit, limit = Nat.pow 2 63 ∧ Representable (limit * unitsPerOne) :=
    ⟨_, by decide, @representable_two_pow 63 (by decide)⟩
  have hFew : (ofNat maxMonths).less (monthsOf span sign).abs = false := by
    rw [hMost.less hMonths.abs]
    decide
  have hSmall : (millisOf span sign).abs.less (ofNat (Nat.pow 2 63)) = true := by
    rw [← hPow, hMillis.abs.less (denotes_ofNat hFits), decide_eq_true_eq]
    have hAbove : 2 ^ 53 < limit := by
      rw [hPow]
      decide
    rcases hUnit with rfl | rfl <;> omega
  rw [shift?, hMonths.toInt?]
  dsimp only [Option.bind_eq_bind, Option.bind_some]
  rw [hFew, if_neg Bool.false_ne_true, addMonths?, if_pos rfl]
  dsimp only [Option.bind_some]
  rw [hSmall, hMillis.toInt?]
  rfl

end Date

end DocQuery
