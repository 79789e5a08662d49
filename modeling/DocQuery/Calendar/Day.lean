/-!
Days of the calendar that is used for civil dates, extended in both directions without end. A day is
its number, counted from the first of January 1970. Years are counted from March inside the
computation, so that the day that leap years add is the last of its year.
-/

namespace DocQuery.Calendar

/-- The day with number zero is 719468 days after the first of March of the year zero. -/
def marchEpoch : Int := 719468

/-- The days in 400 years, after which the calendar repeats. -/
def daysPerEra : Int := 146097

structure Civil where
  year : Int
  month : Nat
  day : Nat
  deriving DecidableEq, Repr

/-- Every fourth year is a leap year, except every hundredth, except every four-hundredth. -/
def isLeapYear (year : Int) : Bool :=
  year % 4 == 0 && (year % 100 != 0 || year % 400 == 0)

def monthLength (year : Int) (month : Nat) : Nat :=
  if month = 2 then (if isLeapYear year then 29 else 28)
  else if month = 4 ∨ month = 6 ∨ month = 9 ∨ month = 11 then 30
  else 31

def Civil.exists (c : Civil) : Bool :=
  1 ≤ c.month && c.month ≤ 12 && 1 ≤ c.day && c.day ≤ monthLength c.year c.month

def Civil.toDay (c : Civil) : Int :=
  let year := if c.month ≤ 2 then c.year - 1 else c.year
  let era := year.fdiv 400
  let yearOfEra := year.fmod 400
  let monthFromMarch : Int := ((c.month + 9) % 12 : Nat)
  let dayOfYear := (153 * monthFromMarch + 2) / 5 + c.day - 1
  let dayOfEra := yearOfEra * 365 + yearOfEra / 4 - yearOfEra / 100 + dayOfYear
  era * daysPerEra + dayOfEra - marchEpoch

def Civil.ofDay (day : Int) : Civil :=
  let shifted := day + marchEpoch
  let era := shifted.fdiv daysPerEra
  let dayOfEra := shifted.fmod daysPerEra
  let yearOfEra := (dayOfEra - dayOfEra / 1460 + dayOfEra / 36524 - dayOfEra / 146096) / 365
  let dayOfYear := dayOfEra - (365 * yearOfEra + yearOfEra / 4 - yearOfEra / 100)
  let monthFromMarch := (5 * dayOfYear + 2) / 153
  let dayOfMonth := dayOfYear - (153 * monthFromMarch + 2) / 5 + 1
  let month := if monthFromMarch < 10 then monthFromMarch + 3 else monthFromMarch - 9
  let year := yearOfEra + era * 400
  ⟨if month ≤ 2 then year + 1 else year, month.toNat, dayOfMonth.toNat⟩

/-- The weekday of a day, from zero for Monday to six for Sunday. -/
def weekdayFromMonday (day : Int) : Nat := ((day + 3).fmod 7).toNat

/-- The weekday of a day, from zero for Sunday to six for Saturday. -/
def weekdayFromSunday (day : Int) : Nat := ((day + 4).fmod 7).toNat

def newYear (year : Int) : Int := Civil.toDay ⟨year, 1, 1⟩

/-- The place of a day in its year, from one on. -/
def ordinal (day : Int) : Nat := (day - newYear (Civil.ofDay day).year + 1).toNat

def yearLength (year : Int) : Nat := if isLeapYear year then 366 else 365

/-- The year that a week belongs to, which is the year of its Thursday, and the number of the week in
that year. -/
def isoWeek (day : Int) : Int × Nat :=
  let thursday := day - weekdayFromMonday day + 3
  ((Civil.ofDay thursday).year, (ordinal thursday - 1) / 7 + 1)

/-- The number of weeks of the year that have begun, where weeks begin on the weekday that is
`weekday` days before the given day. -/
def weekOfYear (day : Int) (weekday : Nat) : Nat := (ordinal day + 6 - weekday) / 7

def firstYear : Int := -262143

def lastYear : Int := 262142

def Civil.inRange (c : Civil) : Bool := firstYear ≤ c.year && c.year ≤ lastYear

/-- The number of a civil date, if it exists and lies within the limits. -/
def dayOf? (year : Int) (month day : Nat) : Option Int :=
  let c : Civil := ⟨year, month, day⟩
  if c.exists && c.inRange then some c.toDay else none

end DocQuery.Calendar
