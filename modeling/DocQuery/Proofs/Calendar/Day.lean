import Mathlib.Tactic.IntervalCases
import DocQuery.Calendar.Day

/-!
Days and civil dates stand for each other. Inside an era of 400 years, a day is found by dividing by the
length of a year after the leap days have been taken out. Every day of an era lies in one of its years, and
every day of a year in one of its months.
-/

namespace DocQuery.Calendar

/-- A year that ends with a leap day, counted from March inside an era. -/
def EndsLong (yearOfEra : Int) : Prop :=
  (yearOfEra + 1) % 4 = 0 ∧ ((yearOfEra + 1) % 100 ≠ 0 ∨ (yearOfEra + 1) % 400 = 0)

/-- The day of an era, counted from the first of March. -/
def dayOfEra (yearOfEra dayOfYear : Int) : Int :=
  yearOfEra * 365 + yearOfEra / 4 - yearOfEra / 100 + dayOfYear

/-- The year is found from the day of the era. -/
theorem year_of_dayOfEra {year day doe : Int} (hYear : 0 ≤ year ∧ year < 400)
    (hDay : 0 ≤ day ∧ day ≤ 365) (hLong : day = 365 → EndsLong year)
    (hDoe : doe = dayOfEra year day) :
    (doe - doe / 1460 + doe / 36524 - doe / 146096) / 365 = year := by
  unfold EndsLong at hLong
  rw [dayOfEra] at hDoe
  obtain ⟨a, b, c, hSplit, ha, hb, hc⟩ : ∃ a b c : Int, year = 100 * a + 4 * b + c ∧
      (0 ≤ a ∧ a ≤ 3) ∧ (0 ≤ b ∧ b ≤ 24) ∧ (0 ≤ c ∧ c ≤ 3) :=
    ⟨year / 100, year % 100 / 4, year % 4, by omega, by omega, by omega, by omega⟩
  have hDays : doe = 36524 * a + 1461 * b + 365 * c + day := by omega
  have hEnd : day = 365 → c = 3 ∧ (b ≠ 24 ∨ a = 3) := by omega
  clear hDoe hLong hYear
  -- Only the last day of an era reaches the end of a fourth century.
  have hCenturies : doe / 36524 - doe / 146096 = a := by
    have hRest : 1461 * b + 365 * c + day ≤ 36523 ∨
        a = 3 ∧ 1461 * b + 365 * c + day = 36524 := by
      omega
    obtain rfl | rfl | rfl | rfl : a = 0 ∨ a = 1 ∨ a = 2 ∨ a = 3 := by omega
    all_goals omega
  -- A leap day at the end of a year is the day that a fourfold of 365 days is short of.
  have hFours : doe / 1460 = 25 * a + b ∧ day < 365 ∨ doe / 1460 = 25 * a + b + 1 ∧ 0 < day := by
    omega
  omega

/-- The place of a month in a year that begins with March. -/
def monthFromMarch (month : Nat) : Int := ((month + 9) % 12 : Nat)

/-- The day of a year that begins with March. -/
def dayFromMarch (month day : Nat) : Int := (153 * monthFromMarch month + 2) / 5 + day - 1

theorem exists_iff {c : Civil} :
    c.exists = true ↔ (1 ≤ c.month ∧ c.month ≤ 12) ∧ 1 ≤ c.day ∧ c.day ≤ monthLength c.year c.month := by
  simp [Civil.exists, and_assoc]

/-- The months of a year have 30 or 31 days, but for the last one that is counted. -/
theorem month_of_dayFromMarch {year : Int} {month day : Nat} (hMonth : 1 ≤ month ∧ month ≤ 12)
    (hDay : 1 ≤ day ∧ day ≤ monthLength year month) :
    (5 * dayFromMarch month day + 2) / 153 = monthFromMarch month ∧
    (0 ≤ dayFromMarch month day ∧ dayFromMarch month day ≤ 365) ∧
    (dayFromMarch month day = 365 → month = 2 ∧ isLeapYear year = true) := by
  obtain ⟨hFirst, hLast⟩ := hMonth
  unfold dayFromMarch monthFromMarch
  unfold monthLength at hDay
  by_cases hLeap : isLeapYear year = true
  · simp only [hLeap, if_true] at hDay ⊢
    interval_cases month <;> simp at hDay ⊢ <;> omega
  · simp only [hLeap] at hDay ⊢
    interval_cases month <;> simp at hDay ⊢ <;> omega

theorem isLeapYear_iff {year : Int} :
    isLeapYear year = true ↔ year % 4 = 0 ∧ (year % 100 ≠ 0 ∨ year % 400 = 0) := by
  simp [isLeapYear]

/-- The year, begun with March, that a date lies in. -/
def marchYear (c : Civil) : Int := if c.month ≤ 2 then c.year - 1 else c.year

/-- The number of a day, by its era and its place there. -/
theorem toDay_eq (c : Civil) :
    c.toDay = marchYear c / 400 * 146097 +
      dayOfEra (marchYear c % 400) (dayFromMarch c.month c.day) - marchEpoch := by
  simp only [Civil.toDay, Int.fdiv_eq_ediv_of_nonneg _ (by decide : (0 : Int) ≤ 400),
    Int.fmod_eq_emod_of_nonneg _ (by decide : (0 : Int) ≤ 400)]
  rfl

variable {c : Civil}

/-- Only the last month of a leap year has the day with number 365. -/
theorem endsLong_marchYear (hExists : c.exists = true) (hEnd : dayFromMarch c.month c.day = 365) :
    EndsLong (marchYear c % 400) := by
  obtain ⟨hMonth, hDay⟩ := exists_iff.mp hExists
  obtain ⟨_, _, hLast⟩ := month_of_dayFromMarch hMonth hDay
  obtain ⟨hMonth, hLeap⟩ := hLast hEnd
  rw [isLeapYear_iff] at hLeap
  rw [marchYear, hMonth, if_pos (by decide)]
  unfold EndsLong
  omega

/-- A day that exists lies in its era. -/
theorem dayOfEra_bounds (hExists : c.exists = true) :
    0 ≤ dayOfEra (marchYear c % 400) (dayFromMarch c.month c.day) ∧
      dayOfEra (marchYear c % 400) (dayFromMarch c.month c.day) < 146097 := by
  obtain ⟨hMonth, hDay⟩ := exists_iff.mp hExists
  obtain ⟨_, hWithin, _⟩ := month_of_dayFromMarch hMonth hDay
  have hLong := endsLong_marchYear hExists
  unfold EndsLong at hLong
  unfold dayOfEra
  omega

/-- A date with a year of four digits lies well within the range of dates. -/
theorem toDay_bounds (hExists : c.exists = true) (hYear : 0 ≤ c.year ∧ c.year < 10000) :
    -1000000 ≤ c.toDay ∧ c.toDay ≤ 3000000 := by
  have hEra := dayOfEra_bounds hExists
  have hMarch : -1 ≤ marchYear c ∧ marchYear c < 10000 := by
    rw [marchYear]
    split <;> omega
  rw [toDay_eq, marchEpoch]
  omega

/-- A civil date that exists is the one of its day. -/
theorem ofDay_toDay (hExists : c.exists = true) : Civil.ofDay c.toDay = c := by
  obtain ⟨hMonth, hDay⟩ := exists_iff.mp hExists
  obtain ⟨hFromMarch, hWithin, _⟩ := month_of_dayFromMarch hMonth hDay
  have hYear := year_of_dayOfEra (by omega : 0 ≤ marchYear c % 400 ∧ marchYear c % 400 < 400) hWithin
    (endsLong_marchYear hExists) rfl
  have hEra := dayOfEra_bounds hExists
  have hShifted : c.toDay + marchEpoch = marchYear c / 400 * 146097 +
      dayOfEra (marchYear c % 400) (dayFromMarch c.month c.day) := by
    rw [toDay_eq, Int.sub_add_cancel]
  have hQuotient : (c.toDay + marchEpoch).fdiv daysPerEra = marchYear c / 400 := by
    rw [hShifted, Int.fdiv_eq_ediv_of_nonneg _ (by decide), daysPerEra]
    omega
  have hRemainder : (c.toDay + marchEpoch).fmod daysPerEra =
      dayOfEra (marchYear c % 400) (dayFromMarch c.month c.day) := by
    rw [hShifted, Int.fmod_eq_emod_of_nonneg _ (by decide), daysPerEra]
    omega
  have hDayOfYear : dayOfEra (marchYear c % 400) (dayFromMarch c.month c.day) -
      (365 * (marchYear c % 400) + marchYear c % 400 / 4 - marchYear c % 400 / 100) =
        dayFromMarch c.month c.day := by
    unfold dayOfEra
    omega
  have hMonthBack : (if monthFromMarch c.month < 10 then monthFromMarch c.month + 3
      else monthFromMarch c.month - 9) = c.month := by
    unfold monthFromMarch
    split <;> omega
  have hDayBack : dayFromMarch c.month c.day - (153 * monthFromMarch c.month + 2) / 5 + 1 = c.day := by
    unfold dayFromMarch
    omega
  have hYearBack : (if (c.month : Int) ≤ 2 then marchYear c % 400 + marchYear c / 400 * 400 + 1
      else marchYear c % 400 + marchYear c / 400 * 400) = c.year := by
    unfold marchYear
    split <;> split <;> omega
  simp only [Civil.ofDay, hQuotient, hRemainder, hYear, hDayOfYear, hFromMarch, hMonthBack, hDayBack,
    hYearBack, Int.toNat_natCast]

/-- Every day of an era lies in one of its years; a year of 366 days ends with a leap day. -/
theorem exists_dayOfEra {doe : Int} (hDoe : 0 ≤ doe ∧ doe < 146097) :
    ∃ year day : Int, (0 ≤ year ∧ year < 400) ∧ (0 ≤ day ∧ day ≤ 365) ∧
      (day = 365 → EndsLong year) ∧ doe = dayOfEra year day := by
  -- The last century and the last year of four have the days that are left over.
  obtain ⟨a, century, ha, hCentury, hLast⟩ : ∃ a century : Int, (0 ≤ a ∧ a ≤ 3) ∧
      (0 ≤ century ∧ century ≤ 36524 ∧ doe = 36524 * a + century) ∧ (century = 36524 → a = 3) :=
    ⟨min (doe / 36524) 3, doe - 36524 * min (doe / 36524) 3, by omega, by omega, by omega⟩
  obtain ⟨c, day, hc, hDay, hEnd⟩ : ∃ c day : Int, (0 ≤ c ∧ c ≤ 3) ∧
      (0 ≤ day ∧ day ≤ 365 ∧ century % 1461 = 365 * c + day) ∧ (day = 365 → c = 3) :=
    ⟨min (century % 1461 / 365) 3, century % 1461 - 365 * min (century % 1461 / 365) 3, by omega,
      by omega, by omega⟩
  have hFours : 0 ≤ century / 1461 ∧ century / 1461 ≤ 24 := by omega
  have hSplit : century = 1461 * (century / 1461) + (365 * c + day) := by omega
  generalize century / 1461 = b at hFours hSplit
  refine ⟨100 * a + 4 * b + c, day, by omega, by omega, fun hLong => ?_, ?_⟩
  · have hLastYear := hEnd hLong
    unfold EndsLong
    omega
  · have hQuarter : (100 * a + 4 * b + c) / 4 = 25 * a + b := by omega
    have hHundred : (100 * a + 4 * b + c) / 100 = a := by omega
    rw [dayOfEra, hQuarter, hHundred]
    omega

/-- Every day of a year that begins with March lies in one of its months. -/
theorem exists_dayFromMarch {day : Int} (hDay : 0 ≤ day ∧ day ≤ 365) :
    ∃ month dayOfMonth : Nat, (1 ≤ month ∧ month ≤ 12) ∧ 1 ≤ dayOfMonth ∧
      dayFromMarch month dayOfMonth = day ∧ (day = 365 → month = 2) ∧
      ∀ year, (day = 365 → isLeapYear year = true) → dayOfMonth ≤ monthLength year month := by
  obtain ⟨k, hk, hPlace⟩ : ∃ k : Nat, k ≤ 11 ∧ (5 * day + 2) / 153 = k :=
    ⟨((5 * day + 2) / 153).toNat, by omega, by omega⟩
  have hFirst : 0 ≤ day - (153 * k + 2) / 5 := by omega
  have hFrom : monthFromMarch (if k < 10 then k + 3 else k - 9) = k := by
    unfold monthFromMarch
    split <;> omega
  refine ⟨if k < 10 then k + 3 else k - 9, (day - (153 * k + 2) / 5).toNat + 1, ?_, by omega, ?_, ?_, ?_⟩
  · split <;> omega
  · rw [dayFromMarch, hFrom]
    omega
  · intro hEnd
    obtain rfl : k = 11 := by omega
    rfl
  · intro year hLong
    clear hFrom
    unfold monthLength
    by_cases hLeap : isLeapYear year = true
    · simp only [hLeap, if_true]
      interval_cases k <;> simp <;> omega
    · have hShort : day ≠ 365 := mt hLong hLeap
      simp only [hLeap]
      interval_cases k <;> simp <;> omega

theorem marchYear_mk (march : Int) (month day : Nat) :
    marchYear ⟨if month ≤ 2 then march + 1 else march, month, day⟩ = march := by
  rw [marchYear]
  dsimp only
  split <;> omega

/-- Every day is the day of a civil date that exists. -/
theorem exists_toDay_eq (day : Int) : ∃ c : Civil, c.exists = true ∧ c.toDay = day := by
  have hEra : 0 ≤ (day + marchEpoch) % 146097 ∧ (day + marchEpoch) % 146097 < 146097 := by omega
  obtain ⟨year, dayOfYear, hYear, hDay, hLong, hDoe⟩ := exists_dayOfEra hEra
  obtain ⟨month, dayOfMonth, hMonth, hFirst, hFrom, hFebruary, hLength⟩ := exists_dayFromMarch hDay
  obtain ⟨march, hMarch⟩ : ∃ march, march = (day + marchEpoch) / 146097 * 400 + year := ⟨_, rfl⟩
  have hLeap : dayOfYear = 365 → isLeapYear (if month ≤ 2 then march + 1 else march) = true := by
    intro hEnd
    have hEnds := hLong hEnd
    unfold EndsLong at hEnds
    rw [hFebruary hEnd, if_pos (by decide), isLeapYear_iff]
    omega
  refine ⟨⟨if month ≤ 2 then march + 1 else march, month, dayOfMonth⟩, ?_, ?_⟩
  · exact exists_iff.mpr ⟨hMonth, hFirst, hLength _ hLeap⟩
  · have hQuotient : march / 400 = (day + marchEpoch) / 146097 := by omega
    have hRemainder : march % 400 = year := by omega
    rw [toDay_eq, marchYear_mk, hQuotient, hRemainder, hFrom, ← hDoe]
    omega

/-- The civil date of a day exists. -/
theorem exists_ofDay (day : Int) : (Civil.ofDay day).exists = true := by
  obtain ⟨c, hExists, rfl⟩ := exists_toDay_eq day
  rwa [ofDay_toDay hExists]

/-- A day is the one of its civil date. -/
theorem toDay_ofDay (day : Int) : (Civil.ofDay day).toDay = day := by
  obtain ⟨c, hExists, rfl⟩ := exists_toDay_eq day
  rw [ofDay_toDay hExists]

end DocQuery.Calendar
