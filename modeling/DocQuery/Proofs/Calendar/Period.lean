import DocQuery.Proofs.Calendar.Day

/-!
Weeks, months and years tile the days. The first day of a period and the first day of the next one are told
from any of its days, and two days lie in the same period exactly when it begins on the same day for both.
-/

namespace DocQuery.Calendar

/-- The first day from which the periods begin, and the first day of the next period, tile the days: from one
to the other are the days of the same period. -/
structure Tiling (first next : Int → Int) : Prop where
  mem_iff : ∀ a b, first a ≤ b ∧ b < next a ↔ first b = first a

namespace Tiling

variable {first next : Int → Int} (h : Tiling first next)

include h

theorem within (a : Int) : first a ≤ a ∧ a < next a := (h.mem_iff a a).mpr rfl

/-- Periods that begin together end together. -/
theorem next_eq_of_first_eq {a b : Int} (hFirst : first b = first a) : next b = next a := by
  -- A later end of one of them would be a day of the other.
  have hLess {c d : Int} (hSame : first c = first d) : ¬ next c < next d := by
    intro hEarlier
    have hBegun : first d ≤ next c := hSame ▸ ((h.within c).1.trans (h.within c).2.le)
    have hEnd := (h.mem_iff d (next c)).mp ⟨hBegun, hEarlier⟩
    exact Int.lt_irrefl _ ((h.mem_iff c (next c)).mpr (hEnd.trans hSame.symm)).2
  exact Int.le_antisymm (Int.not_lt.mp (hLess hFirst.symm)) (Int.not_lt.mp (hLess hFirst))

/-- The next period begins where the period ends. -/
theorem first_next (a : Int) : first (next a) = next a := by
  obtain ⟨hBegun, hEnd⟩ := h.within a
  obtain ⟨hNext, hBehind⟩ := h.within (next a)
  refine Int.le_antisymm hNext (Int.not_lt.mp fun hEarlier => ?_)
  -- The day before would lie in both periods.
  have hLast := (h.mem_iff a (next a - 1)).mp ⟨by omega, by omega⟩
  have hFirst := (h.mem_iff (next a) (next a - 1)).mp ⟨by omega, by omega⟩
  exact Int.lt_irrefl _ ((h.mem_iff a (next a)).mpr (hFirst.symm.trans hLast)).2

/-- Days have the same next period exactly when they have the same period. -/
theorem next_eq_iff {a b : Int} : next b = next a ↔ first b = first a := by
  refine ⟨fun hNext => ?_, h.next_eq_of_first_eq⟩
  have hLast {c : Int} : first (next c - 1) = first c := by
    obtain ⟨hBegun, hEnd⟩ := h.within c
    exact (h.mem_iff c (next c - 1)).mp ⟨by omega, by omega⟩
  rw [← hLast, hNext, hLast]

end Tiling

/-! ### Weeks -/

def weekStart (day : Int) : Int := day - weekdayFromMonday day

theorem weekdayFromMonday_eq (day : Int) : (weekdayFromMonday day : Int) = (day + 3) % 7 := by
  rw [weekdayFromMonday, Int.fmod_eq_emod_of_nonneg _ (by decide)]
  omega

theorem tiling_week : Tiling weekStart (weekStart · + 7) := by
  constructor
  intro a b
  simp only [weekStart, weekdayFromMonday_eq]
  omega

/-! ### Months -/

/-- The day on which a year, counted from March, begins, but for the day that days are counted from. -/
def marchStart (year : Int) : Int := 365 * year + year / 4 - year / 100 + year / 400

/-- The number of a day, counted from the first of March. -/
theorem toDay_eq_marchStart (c : Civil) :
    c.toDay = marchStart (marchYear c) + dayFromMarch c.month c.day - marchEpoch := by
  rw [toDay_eq, dayOfEra, marchStart]
  omega

theorem toDay_eq_add (year : Int) (month day : Nat) :
    Civil.toDay ⟨year, month, day⟩ = Civil.toDay ⟨year, month, 1⟩ + day - 1 := by
  simp only [toDay_eq_marchStart, marchYear, dayFromMarch]
  omega

/-- A year that begins with March is as long as the civil year that it ends in. -/
theorem marchStart_eq_add (year : Int) : marchStart year = marchStart (year - 1) + yearLength year := by
  rw [marchStart, marchStart, yearLength]
  by_cases hLeap : isLeapYear year = true
  · rw [if_pos hLeap]
    rw [isLeapYear_iff] at hLeap
    omega
  · rw [if_neg hLeap]
    rw [isLeapYear_iff] at hLeap
    omega

def nextMonth (year : Int) (month : Nat) : Civil :=
  if month = 12 then ⟨year + 1, 1, 1⟩ else ⟨year, month + 1, 1⟩

/-- A month other than February ends where the next one begins in the year from March, or with that year. -/
theorem dayFromMarch_next {year : Int} {month : Nat} (hMonth : 1 ≤ month ∧ month ≤ 12)
    (hOther : month ≠ 2) :
    dayFromMarch (month % 12 + 1) 1 = dayFromMarch month 1 + monthLength year month := by
  obtain ⟨hFirst, hLast⟩ := hMonth
  rw [monthLength, if_neg hOther]
  interval_cases month
  · decide
  · exact absurd rfl hOther
  all_goals decide

/-- Behind the last day of a month comes the first of the next one. -/
theorem toDay_nextMonth {year : Int} {month : Nat} (hMonth : 1 ≤ month ∧ month ≤ 12) :
    (nextMonth year month).toDay = Civil.toDay ⟨year, month, 1⟩ + monthLength year month := by
  by_cases hFebruary : month = 2
  · -- The leap day ends the year that is counted from March.
    subst hFebruary
    have hNext : nextMonth year 2 = ⟨year, 3, 1⟩ := rfl
    have hLength : (monthLength year 2 : Int) = yearLength year - 337 := by
      rw [monthLength, if_pos rfl, yearLength]
      split <;> decide
    have hFirst : dayFromMarch 3 1 = 0 ∧ dayFromMarch 2 1 = 337 := by decide
    have hYear : marchYear ⟨year, 3, 1⟩ = year ∧ marchYear ⟨year, 2, 1⟩ = year - 1 := ⟨rfl, rfl⟩
    rw [hNext, toDay_eq_marchStart, toDay_eq_marchStart, hYear.1, hYear.2, hLength, marchStart_eq_add year]
    dsimp only
    omega
  · have hNext : (nextMonth year month).month = month % 12 + 1 ∧ (nextMonth year month).day = 1 ∧
        marchYear (nextMonth year month) = marchYear ⟨year, month, 1⟩ := by
      unfold nextMonth marchYear
      split <;> dsimp only <;> omega
    rw [toDay_eq_marchStart, toDay_eq_marchStart, hNext.1, hNext.2.1, hNext.2.2,
      @dayFromMarch_next year _ hMonth hFebruary]
    dsimp only
    omega

def monthStart (day : Int) : Int := Civil.toDay ⟨(Civil.ofDay day).year, (Civil.ofDay day).month, 1⟩

/-- The first day of the month behind the one that a day lies in. -/
def monthEnd (day : Int) : Int := (nextMonth (Civil.ofDay day).year (Civil.ofDay day).month).toDay

theorem exists_first {year : Int} {month : Nat} (hMonth : 1 ≤ month ∧ month ≤ 12) :
    (Civil.mk year month 1).exists = true := by
  refine exists_iff.mpr ⟨hMonth, Nat.le_refl 1, ?_⟩
  dsimp only
  unfold monthLength
  split_ifs <;> decide

/-- Months follow one another without gaps. -/
theorem tiling_month : Tiling monthStart monthEnd := by
  constructor
  intro a b
  have hExists := exists_ofDay a
  have hDayB := toDay_ofDay b
  have hOther := exists_ofDay b
  rw [monthStart, monthStart, monthEnd]
  generalize Civil.ofDay a = civil at hExists ⊢
  obtain ⟨year, month, day⟩ := civil
  obtain ⟨hMonth, hDay⟩ := exists_iff.mp hExists
  dsimp only at hMonth ⊢
  rw [toDay_nextMonth hMonth]
  constructor
  · -- A day of the month has a place in it.
    rintro ⟨hBegun, hEnd⟩
    obtain ⟨place, hPlace⟩ : ∃ place : Nat, b = Civil.toDay ⟨year, month, 1⟩ + place - 1 ∧
        1 ≤ place ∧ place ≤ monthLength year month :=
      ⟨(b - Civil.toDay ⟨year, month, 1⟩ + 1).toNat, by omega, by omega, by omega⟩
    have hCivil : Civil.ofDay b = ⟨year, month, place⟩ := by
      rw [hPlace.1, ← toDay_eq_add]
      exact ofDay_toDay (exists_iff.mpr ⟨hMonth, hPlace.2⟩)
    rw [hCivil]
  · intro hSame
    have hFirst := congrArg Civil.ofDay hSame
    rw [ofDay_toDay (exists_first (exists_iff.mp hOther).1), ofDay_toDay (exists_first hMonth)] at hFirst
    generalize Civil.ofDay b = other at hOther hDayB hFirst
    obtain ⟨otherYear, otherMonth, place⟩ := other
    obtain ⟨hYears, hMonths, _⟩ := Civil.mk.inj hFirst
    dsimp only at hYears hMonths
    subst hYears hMonths
    obtain ⟨_, hDays⟩ := exists_iff.mp hOther
    dsimp only at hDays
    rw [toDay_eq_add] at hDayB
    omega

/-! ### Years -/

/-- A year begins 306 days after the first of March before. -/
theorem newYear_eq (year : Int) : newYear year = marchStart (year - 1) + 306 - marchEpoch := by
  have hJanuary : marchYear ⟨year, 1, 1⟩ = year - 1 ∧ dayFromMarch 1 1 = 306 := ⟨rfl, by decide⟩
  rw [newYear, toDay_eq_marchStart, hJanuary.1]
  exact congrArg (marchStart (year - 1) + · - marchEpoch) hJanuary.2

/-- No year is shorter than 365 days. -/
theorem newYear_add_le (year : Int) : newYear year + 365 ≤ newYear (year + 1) := by
  have hLength := marchStart_eq_add year
  have hLong : 365 ≤ yearLength year := by
    rw [yearLength]
    split <;> decide
  rw [newYear_eq, newYear_eq, Int.add_sub_cancel]
  omega

/-- A day lies between the first days of its year and of the next one. -/
theorem toDay_between {c : Civil} (h : c.exists = true) :
    newYear c.year ≤ c.toDay ∧ c.toDay < newYear (c.year + 1) := by
  obtain ⟨hMonth, hDay⟩ := exists_iff.mp h
  obtain ⟨hPlace, hBounds, _⟩ := month_of_dayFromMarch hMonth hDay
  have hLong := newYear_add_le c.year
  -- January and February are the last months of a year from March.
  have hSide : c.month ≤ 2 ∧ 10 ≤ monthFromMarch c.month ∨ ¬ c.month ≤ 2 ∧ monthFromMarch c.month ≤ 9 := by
    unfold monthFromMarch
    omega
  rw [newYear_eq, newYear_eq, Int.add_sub_cancel] at hLong ⊢
  rw [toDay_eq_marchStart, marchYear]
  rcases hSide with ⟨hEarly, hLate⟩ | ⟨hLate, hEarly⟩
  · rw [if_pos hEarly]
    omega
  · rw [if_neg hLate]
    omega

theorem newYear_lt {a b : Int} (h : a < b) : newYear a < newYear b := by
  rw [newYear_eq, newYear_eq, marchStart, marchStart]
  omega

theorem newYear_le {a b : Int} (h : a ≤ b) : newYear a ≤ newYear b := by
  rcases Int.lt_or_eq_of_le h with hLess | rfl
  · exact (newYear_lt hLess).le
  · exact Int.le_refl _

def yearStart (day : Int) : Int := newYear (Civil.ofDay day).year

/-- The first day of the year behind the one that a day lies in. -/
def yearEnd (day : Int) : Int := newYear ((Civil.ofDay day).year + 1)

theorem year_eq_of_newYear_eq {a b : Int} (h : newYear a = newYear b) : a = b :=
  Int.le_antisymm (Int.not_lt.mp fun hMore => absurd h (newYear_lt hMore).ne')
    (Int.not_lt.mp fun hLess => absurd h (newYear_lt hLess).ne)

/-- Years follow one another without gaps. -/
theorem tiling_year : Tiling yearStart yearEnd := by
  constructor
  intro a b
  obtain ⟨hBegun, hEnd⟩ := toDay_between (exists_ofDay b)
  rw [toDay_ofDay] at hBegun hEnd
  rw [yearStart, yearStart, yearEnd]
  generalize (Civil.ofDay a).year = year
  generalize (Civil.ofDay b).year = other at hBegun hEnd ⊢
  constructor
  · -- The year of a day begins before every later year.
    rintro ⟨hStart, hNext⟩
    have hOrder {c d : Int} (hLess : newYear c < newYear (d + 1)) : c ≤ d :=
      Int.not_lt.mp fun hMore => Int.not_le.mpr hLess (newYear_le hMore)
    exact congrArg newYear (Int.le_antisymm (hOrder (by omega)) (hOrder (by omega)))
  · intro hSame
    obtain rfl := year_eq_of_newYear_eq hSame
    exact ⟨hBegun, hEnd⟩

/-! ### Periods -/

/-- The periods that have a named start and end. -/
inductive Period where
  | week | month | year
  deriving DecidableEq

namespace Period

def first : Period → Int → Int
  | week => weekStart
  | month => monthStart
  | year => yearStart

/-- The first day of the period behind the one that a day lies in. -/
def next : Period → Int → Int
  | week => (weekStart · + 7)
  | month => monthEnd
  | year => yearEnd

/-- Periods of each kind follow one another without gaps. -/
theorem tiling (period : Period) : Tiling period.first period.next := by
  cases period with
  | week => exact tiling_week
  | month => exact tiling_month
  | year => exact tiling_year

/-- What shows on the calendar that a period begins: a Monday, the first of a month, or the first of
January. -/
def Opens : Period → Int → Prop
  | week, day => weekdayFromMonday day = 0
  | month, day => (Civil.ofDay day).day = 1
  | year, day => (Civil.ofDay day).month = 1 ∧ (Civil.ofDay day).day = 1

/-- The first days of the periods are those that show it. -/
theorem opens_iff (period : Period) (day : Int) : period.Opens day ↔ period.first day = day := by
  have hDay := toDay_ofDay day
  cases period with
  | week =>
      rw [Opens, first, weekStart]
      omega
  | month =>
      rw [Opens, first, monthStart]
      generalize Civil.ofDay day = civil at hDay
      obtain ⟨year, month, place⟩ := civil
      rw [toDay_eq_add] at hDay
      dsimp only
      omega
  | year =>
      have hExists := exists_ofDay day
      rw [Opens, first, yearStart, newYear]
      generalize Civil.ofDay day = civil at hDay hExists
      obtain ⟨year, month, place⟩ := civil
      constructor
      · rintro ⟨rfl, rfl⟩
        exact hDay
      · intro hSame
        have hCivil := congrArg Civil.ofDay (hSame.trans hDay.symm)
        rw [ofDay_toDay hExists, ofDay_toDay rfl] at hCivil
        obtain ⟨_, hMonth, hPlace⟩ := Civil.mk.inj hCivil
        exact ⟨hMonth.symm, hPlace.symm⟩

/-- No period reaches a week beyond the year that one of its days lies in. -/
theorem bounds (period : Period) (day : Int) :
    newYear (Civil.ofDay day).year - 6 ≤ period.first day ∧
      period.next day ≤ newYear ((Civil.ofDay day).year + 1) + 6 := by
  have hExists := exists_ofDay day
  obtain ⟨hBegun, hEnd⟩ := toDay_between hExists
  rw [toDay_ofDay] at hBegun hEnd
  cases period with
  | week =>
      simp only [first, next, weekStart, weekdayFromMonday_eq]
      omega
  | month =>
      rw [first, next, monthStart, monthEnd]
      generalize Civil.ofDay day = civil at hExists ⊢
      obtain ⟨hMonth, _⟩ := exists_iff.mp hExists
      have hFirst := (toDay_between (@exists_first civil.year _ hMonth)).1
      refine ⟨by dsimp only at hFirst; omega, ?_⟩
      rw [nextMonth]
      split
      · rw [← newYear]
        omega
      · have hLess := (toDay_between (@exists_first civil.year (civil.month + 1) (by omega))).2
        dsimp only at hLess
        omega
  | year =>
      rw [first, next, yearStart, yearEnd]
      omega

end Period

end DocQuery.Calendar
