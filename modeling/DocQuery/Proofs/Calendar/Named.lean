import DocQuery.Proofs.Calendar.Elapsed
import DocQuery.Proofs.Calendar.Literal
import DocQuery.Proofs.Calendar.Period

/-!
The named starts and ends of weeks, months and years tile time. A start is the midnight that the first day of
a period begins with, and an end is the last millisecond before the next period. Only a leap second at the end
of a period lies behind its end.
-/

namespace DocQuery

open Calendar

namespace Calendar.Period

def startName : Period → String
  | week => "sow"
  | month => "som"
  | year => "soy"

def endName : Period → String
  | week => "eow"
  | month => "eom"
  | year => "eoy"

end Calendar.Period

namespace Date

/-- A day that lies in the range of dates with every offset. -/
structure Inside (day : Int) : Prop where
  begun : newYear firstYear < day
  ahead : day + 1 < newYear (lastYear + 1)

def atMidnight (day offset : Int) : Date := ⟨day * secondsPerDay - offset, 0, offset⟩

def lastMilli (day offset : Int) : Date := ⟨day * secondsPerDay - offset - 1, 999000000, offset⟩

/-! ### Midnights -/

section Midnight

variable {day offset : Int}

@[simp] theorem offset_atMidnight : (atMidnight day offset).offset = offset := rfl

@[simp] theorem localSeconds_atMidnight : (atMidnight day offset).localSeconds = day * secondsPerDay :=
  Int.sub_add_cancel _ _

@[simp] theorem day_atMidnight : (atMidnight day offset).day = day := by
  rw [Date.day, localSeconds_atMidnight, Int.mul_fdiv_cancel _ (by decide)]

@[simp] theorem clock_atMidnight : (atMidnight day offset).clock = .midnight := by
  rw [clock, localSeconds_atMidnight, Int.mul_fmod_left]
  rfl

theorem inRange_iff {d : Date} : d.inRange = true ↔ rangeStart ≤ d.seconds ∧ d.seconds < rangeEnd := by
  rw [inRange, Bool.and_eq_true, decide_eq_true_iff, decide_eq_true_iff]

/-- Both midnights around a day inside the range are dates. -/
theorem inRange_of_inside (hOffset : offsetInRange offset = true) (hDay : Inside day) :
    (atMidnight day offset).inRange = true ∧ (lastMilli day offset).inRange = true := by
  obtain ⟨hBegun, hAhead⟩ := hDay
  rw [offsetInRange_iff] at hOffset
  rw [inRange_iff, inRange_iff, rangeStart, rangeEnd, atMidnight, lastMilli, secondsPerDay]
  dsimp only
  omega

/-- Midnight of a day inside the range is a date. -/
theorem ofLocal?_midnight (hOffset : offsetInRange offset = true) (hDay : Inside day) :
    ofLocal? day .midnight offset = some (atMidnight day offset) := by
  have hSeconds : day * secondsPerDay + ClockTime.midnight.seconds - offset =
      day * secondsPerDay - offset := congrArg (· - offset) (Int.add_zero _)
  rw [ofLocal?, hSeconds]
  exact if_pos (inRange_of_inside hOffset hDay).1

/-- Moved to another day, midnight stays midnight. -/
theorem withDay?_atMidnight {other : Int} (hOffset : offsetInRange offset = true) (hDay : Inside day) :
    (atMidnight other offset).withDay? day = some (atMidnight day offset) := by
  rw [withDay?, clock_atMidnight, offset_atMidnight, ofLocal?_midnight hOffset hDay]

/-- So many days after midnight it is midnight again. -/
theorem addDays?_atMidnight (hOffset : offsetInRange offset = true) {days : Int}
    (hDay : Inside (day + days)) :
    (atMidnight day offset).addDays? days = some (atMidnight (day + days) offset) := by
  refine addNanos?_eq_some rfl rfl (inRange_of_inside hOffset hDay).1 ?_
  simp only [instant, atMidnight, secondsPerDay, nanosPerSecond]
  omega

/-- The last millisecond before midnight. -/
theorem justBefore?_atMidnight (hOffset : offsetInRange offset = true) (hDay : Inside day) :
    justBefore? (atMidnight day offset) = some (lastMilli day offset) := by
  refine addNanos?_eq_some rfl rfl (inRange_of_inside hOffset hDay).2 ?_
  simp only [instant, atMidnight, lastMilli, secondsPerDay, nanosPerSecond, nanosPerMilli]
  omega

/-- A millisecond behind the last one it is midnight. -/
theorem addNanos?_lastMilli (hOffset : offsetInRange offset = true) (hDay : Inside day) :
    (lastMilli day offset).addNanos? nanosPerMilli = some (atMidnight day offset) := by
  refine addNanos?_eq_some rfl rfl (inRange_of_inside hOffset hDay).1 ?_
  simp only [instant, atMidnight, lastMilli, secondsPerDay, nanosPerSecond, nanosPerMilli]
  omega

end Midnight

/-! ### Starts and ends -/

/-- The year of a day inside of the range is one that dates have. -/
theorem year_inRange {day : Int} (hDay : Inside day) : (Civil.ofDay day).inRange = true := by
  obtain ⟨hBegun, hAhead⟩ := hDay
  obtain ⟨hFirst, hNext⟩ := toDay_between (exists_ofDay day)
  rw [toDay_ofDay] at hFirst hNext
  rw [Civil.inRange, Bool.and_eq_true, decide_eq_true_iff, decide_eq_true_iff]
  constructor
  · refine Int.not_lt.mp fun hEarly => ?_
    have := newYear_le (by omega : (Civil.ofDay day).year + 1 ≤ firstYear)
    omega
  · refine Int.not_lt.mp fun hLate => ?_
    have := newYear_le (by omega : lastYear + 1 ≤ (Civil.ofDay day).year)
    omega

theorem dayOf?_eq_some {c : Civil} (hExists : c.exists = true) (hRange : c.inRange = true) :
    dayOf? c.year c.month c.day = some c.toDay := by
  rw [dayOf?]
  exact if_pos (by rw [hExists, hRange]; rfl)

variable {offset : Int}

/-- From the first of a month, whole months lead to the first of another one. -/
theorem addMonths?_first {c : Civil} {months year : Int} {month : Nat} (hExists : c.exists = true)
    (hFirst : c.day = 1) (hSome : months ≠ 0) (hMonth : 1 ≤ month ∧ month ≤ 12)
    (hTotal : c.year * 12 + (c.month - 1 : Nat) + months = year * 12 + (month - 1 : Nat))
    (hOffset : offsetInRange offset = true) (hDay : Inside (Civil.toDay ⟨year, month, 1⟩)) :
    (atMidnight c.toDay offset).addMonths? months =
      some (atMidnight (Civil.toDay ⟨year, month, 1⟩) offset) := by
  have hNext : (Civil.mk year month 1).exists = true := exists_first hMonth
  have hYear := year_inRange hDay
  rw [ofDay_toDay hNext] at hYear
  have hQuotient : (year * 12 + (month - 1 : Nat)).fdiv 12 = year := by
    rw [Int.fdiv_eq_ediv_of_nonneg _ (by decide)]
    omega
  have hRemainder : ((year * 12 + (month - 1 : Nat)).fmod 12).toNat + 1 = month := by
    rw [Int.fmod_eq_emod_of_nonneg _ (by decide)]
    omega
  have hOne : min 1 (monthLength year month) = 1 := Nat.min_eq_left (exists_iff.mp hNext).2.2
  rw [addMonths?, if_neg hSome, civil, day_atMidnight, ofDay_toDay hExists]
  dsimp only
  rw [hTotal, hQuotient, hRemainder, hFirst, hOne, dayOf?_eq_some hNext hYear, Option.bind_some,
    withDay?_atMidnight hOffset hDay]

variable {d : Date}

theorem startOfDay_eq (hOffset : offsetInRange d.offset = true) (hDay : Inside d.day) :
    d.startOfDay = atMidnight d.day d.offset := by
  rw [startOfDay, ofLocal?_midnight hOffset hDay, Option.getD_some]

/-- The name of a start stands for midnight of the first day of the period. -/
theorem named?_start (period : Period) (hOffset : offsetInRange d.offset = true) (hDay : Inside d.day)
    (hFirst : Inside (period.first d.day)) :
    named? d period.startName = some (atMidnight (period.first d.day) d.offset) := by
  have hToday := startOfDay_eq hOffset hDay
  have hMonth := (exists_iff.mp (exists_ofDay d.day)).1
  have hYear := year_inRange hDay
  cases period with
  | week =>
      have hName : named? d "sow" = d.startOfDay.addDays? (-(weekdayFromMonday d.day : Int)) := rfl
      rw [Period.startName, hName, hToday]
      exact addDays?_atMidnight hOffset hFirst
  | month =>
      have hName : named? d "som" = d.startOfDay.monthStart? := rfl
      rw [Period.startName, hName, hToday, monthStart?, civil, day_atMidnight,
        dayOf?_eq_some (exists_first hMonth) hYear]
      exact withDay?_atMidnight hOffset hFirst
  | year =>
      have hName : named? d "soy" = d.startOfDay.yearStart? := rfl
      rw [Period.startName, hName, hToday, yearStart?, civil, day_atMidnight,
        dayOf?_eq_some (exists_first (by decide)) hYear]
      exact withDay?_atMidnight hOffset hFirst

/-- The step from the start of a period to the start of the next one. -/
def behind? : Period → Date → Option Date
  | .week, start => start.addDays? 7
  | .month, start => start.addMonths? 1
  | .year, start => start.addMonths? 12

/-- The end of a period is found from its start. -/
theorem named?_endName (period : Period) (d : Date) : named? d period.endName =
    (named? d period.startName).bind fun start => (behind? period start).bind justBefore? := by
  cases period <;> rfl

/-- The next period begins with its first midnight. -/
theorem behind?_first (period : Period) {day : Int} (hOffset : offsetInRange offset = true)
    (hNext : Inside (period.next day)) :
    behind? period (atMidnight (period.first day) offset) = some (atMidnight (period.next day) offset) := by
  have hMonth := (exists_iff.mp (exists_ofDay day)).1
  cases period with
  | week => exact addDays?_atMidnight hOffset hNext
  | month =>
      rw [Period.next, monthEnd, nextMonth] at hNext ⊢
      rw [Period.first, monthStart, behind?]
      split at hNext
      · next hLast =>
          rw [if_pos hLast]
          exact addMonths?_first (exists_first hMonth) rfl (by decide) (by decide)
            (by dsimp only; omega) hOffset hNext
      · next hOther =>
          rw [if_neg hOther]
          exact addMonths?_first (exists_first hMonth) rfl (by decide) (by omega)
            (by dsimp only; omega) hOffset hNext
  | year =>
      exact addMonths?_first (exists_first (by decide)) rfl (by decide) (by decide) (by dsimp only; omega)
        hOffset hNext

/-- The name of an end stands for the last millisecond before the next period. -/
theorem named?_end (period : Period) (hOffset : offsetInRange d.offset = true) (hDay : Inside d.day)
    (hFirst : Inside (period.first d.day)) (hNext : Inside (period.next d.day)) :
    named? d period.endName = some (lastMilli (period.next d.day) d.offset) := by
  rw [named?_endName, named?_start period hOffset hDay hFirst, Option.bind_some,
    behind?_first period hOffset hNext, Option.bind_some, justBefore?_atMidnight hOffset hNext]

/-! ### Order -/

def AtMost (a b : Date) : Prop := (a.compare b).isLE = true

theorem atMost_iff {a b : Date} :
    a.AtMost b ↔ a.seconds < b.seconds ∨ a.seconds = b.seconds ∧ a.nanos ≤ b.nanos := by
  rw [AtMost, Date.compare, Ordering.isLE_then_iff_or, Int.compare_eq_lt, Int.compare_eq_eq,
    Nat.isLE_compare]

/-- A date lies in a leap second that follows the other one in the same second. -/
def Overruns (a b : Date) : Prop := a.seconds = b.seconds ∧ a.inLeapSecond = true

instance (a b : Date) : Decidable (a.AtMost b) := inferInstanceAs (Decidable (_ = true))

instance (a b : Date) : Decidable (a.Overruns b) := inferInstanceAs (Decidable (_ ∧ _))

theorem atMidnight_atMost_iff {day : Int} : (atMidnight day d.offset).AtMost d ↔ day ≤ d.day := by
  rw [atMost_iff, Date.day, localSeconds, Int.fdiv_eq_ediv_of_nonneg _ (by decide), atMidnight, secondsPerDay]
  dsimp only
  omega

/-- A date of whole milliseconds is not after the last one before a midnight exactly when its day is an
earlier one and it does not overrun that millisecond. -/
theorem atMost_lastMilli_iff {day : Int} (hWhole : d.WholeMillis) :
    d.AtMost (lastMilli day d.offset) ↔ d.day < day ∧ ¬ d.Overruns (lastMilli day d.offset) := by
  have hMillis := hWhole.whole
  rw [atMost_iff, Overruns, inLeapSecond_iff, Date.day, localSeconds,
    Int.fdiv_eq_ediv_of_nonneg _ (by decide), lastMilli, secondsPerDay]
  dsimp only
  omega

theorem atMidnight_inj {a b : Int} : some (atMidnight a offset) = some (atMidnight b offset) ↔ a = b := by
  simp only [atMidnight, secondsPerDay, Option.some.injEq, mk.injEq, and_true]
  omega

theorem lastMilli_inj {a b : Int} : some (lastMilli a offset) = some (lastMilli b offset) ↔ a = b := by
  simp only [lastMilli, secondsPerDay, Option.some.injEq, mk.injEq, and_true]
  omega

/-! ### Tiling -/

/-- A date in whole milliseconds whose year is neither the first nor the last one. -/
structure Interior (d : Date) : Prop extends WholeMillis d where
  offset : offsetInRange d.offset = true
  year : firstYear < d.civil.year ∧ d.civil.year < lastYear

/-- Around a date in the interior all days of the period are inside the range. -/
theorem Interior.inside (h : d.Interior) (period : Period) :
    Inside d.day ∧ Inside (period.first d.day) ∧ Inside (period.next d.day) := by
  obtain ⟨hFirst, hNext⟩ := period.bounds d.day
  obtain ⟨hBegun, hBehind⟩ := (period.tiling).within d.day
  have hLow := newYear_add_le firstYear
  have hHigh := newYear_add_le lastYear
  have hAfter : newYear (firstYear + 1) ≤ newYear (Civil.ofDay d.day).year := newYear_le h.year.1
  have hBefore : newYear ((Civil.ofDay d.day).year + 1) ≤ newYear lastYear := newYear_le h.year.2
  exact ⟨⟨by omega, by omega⟩, ⟨by omega, by omega⟩, ⟨by omega, by omega⟩⟩

/-- Around every date, its period reaches from a midnight on which one opens to the last millisecond before
the next one. The dates from its start to its end are those with the same start, and those with the same end,
but for a leap second behind the end. -/
theorem named?_tiles (period : Period) {x : Date} (hx : x.Interior) : ∃ start last next : Date,
    named? x period.startName = some start ∧ named? x period.endName = some last ∧
    last.addNanos? nanosPerMilli = some next ∧ named? next period.startName = some next ∧
    start.isMidnight = true ∧ period.Opens start.day ∧
    start.AtMost x ∧ (x.AtMost last ↔ ¬ x.Overruns last) ∧
    ∀ y : Date, y.Interior → y.offset = x.offset →
      (start.AtMost y ∧ y.AtMost last ↔
        named? y period.startName = some start ∧ ¬ y.Overruns last) ∧
      (start.AtMost y ∧ y.AtMost last ↔
        named? y period.endName = some last ∧ ¬ y.Overruns last) := by
  have hTiling := period.tiling
  obtain ⟨hDay, hFirst, hNext⟩ := hx.inside period
  obtain ⟨hBegun, hAhead⟩ := hTiling.within x.day
  have hAgain : period.first (period.first x.day) = period.first x.day :=
    (hTiling.mem_iff _ _).mp ⟨Int.le_refl _, hBegun.trans_lt hAhead⟩
  have hBehind : named? (atMidnight (period.next x.day) x.offset) period.startName =
      some (atMidnight (period.next x.day) x.offset) := by
    have hStart := @named?_start (atMidnight (period.next x.day) x.offset) period hx.offset
    rw [day_atMidnight, hTiling.first_next] at hStart
    exact hStart hNext hNext
  refine ⟨_, _, _, named?_start period hx.offset hDay hFirst, named?_end period hx.offset hDay hFirst hNext,
    addNanos?_lastMilli hx.offset hNext, hBehind, ?_, ?_, atMidnight_atMost_iff.mpr hBegun, ?_, ?_⟩
  · rw [isMidnight, clock_atMidnight, beq_self_eq_true]
  · rw [day_atMidnight, period.opens_iff, hAgain]
  · rw [atMost_lastMilli_iff hx.toWholeMillis, and_iff_right hAhead]
  · intro y hy hOffset
    obtain ⟨hDayY, hFirstY, hNextY⟩ := hy.inside period
    rw [named?_start period hy.offset hDayY hFirstY, named?_end period hy.offset hDayY hFirstY hNextY,
      ← hOffset, atMidnight_inj, lastMilli_inj, atMidnight_atMost_iff,
      atMost_lastMilli_iff hy.toWholeMillis, ← and_assoc, hTiling.mem_iff, hTiling.next_eq_iff]
    exact ⟨Iff.rfl, Iff.rfl⟩

/-- Noon of a leap day, half an hour off a whole offset. -/
def leapDay : Date := ⟨1709188200, 250000000, 19800⟩

theorem interior_leapDay : leapDay.Interior where
  inRange := by decide
  nanos := by decide
  whole := by decide
  offset := by decide
  year := by decide

/-- A month around a leap day, half an hour off a whole offset. -/
theorem named?_tiles_leapDay : leapDay.Interior ∧ ∃ start last : Date,
    named? leapDay "som" = some start ∧ named? leapDay "eom" = some last ∧
    start.AtMost leapDay ∧ leapDay.AtMost last := by
  obtain ⟨start, last, _, hStart, hLast, _, _, _, _, hBegun, hEnd, _⟩ := named?_tiles .month interior_leapDay
  exact ⟨interior_leapDay, start, last, hStart, hLast, hBegun, hEnd.mpr fun hOver => absurd hOver.2 (by decide)⟩

/-- The leap second at the end of 2016. -/
def lastOf2016 : Date := ⟨1483228799, 1000000000, 0⟩

/-- A leap second at the end of a month is no part of it. -/
theorem named?_lastOf2016 : lastOf2016.Interior ∧ ∃ start last : Date,
    named? lastOf2016 "som" = some start ∧ named? lastOf2016 "eom" = some last ∧
    ¬ lastOf2016.AtMost last := by
  refine ⟨⟨⟨by decide, by decide, by decide⟩, by decide, by decide⟩, ⟨1480550400, 0, 0⟩,
    ⟨1483228799, 999000000, 0⟩, ?_, ?_, by decide⟩
  · decide
  · decide

end Date

end DocQuery
