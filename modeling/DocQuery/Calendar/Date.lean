import DocQuery.Calendar.Day
import DocQuery.Number.Basic

/-!
A date is a point in time together with the fixed offset from world time at which it is shown. Two
dates are ordered by the point in time alone.
-/

namespace DocQuery

open Calendar

/-- A point in time: seconds from the start of 1970 in world time, and nanoseconds in that second. In
a leap second the nanoseconds go on beyond a full second. The offset is in seconds to the east. -/
structure Date where
  seconds : Int
  nanos : Nat
  offset : Int
  deriving DecidableEq, Repr

/-- A time of day, in seconds since midnight and nanoseconds. -/
structure ClockTime where
  seconds : Nat
  nanos : Nat
  deriving DecidableEq, Repr

namespace ClockTime

def midnight : ClockTime := ⟨0, 0⟩

def ofParts? (hour minute second nanos : Nat) : Option ClockTime :=
  if hour < 24 && minute < 60 && second < 60 &&
      (nanos < 1000000000 || (second == 59 && nanos < 2000000000)) then
    some ⟨hour * 3600 + minute * 60 + second, nanos⟩
  else none

def hour (t : ClockTime) : Nat := t.seconds / 3600

def minute (t : ClockTime) : Nat := t.seconds / 60 % 60

def second (t : ClockTime) : Nat := t.seconds % 60

end ClockTime

namespace Date

def secondsPerDay : Int := 86400

def nanosPerSecond : Int := 1000000000

def nanosPerMilli : Int := 1000000

/-- The first second of the range of dates in world time. -/
def rangeStart : Int := newYear firstYear * secondsPerDay

/-- The first second behind the range of dates in world time. -/
def rangeEnd : Int := newYear (lastYear + 1) * secondsPerDay

def inRange (d : Date) : Bool := rangeStart ≤ d.seconds && d.seconds < rangeEnd

/-- An offset is less than a day either way. -/
def offsetInRange (offset : Int) : Bool := -secondsPerDay < offset && offset < secondsPerDay

/-- Seconds since the start of 1970 on the local clock. -/
def localSeconds (d : Date) : Int := d.seconds + d.offset

def day (d : Date) : Int := d.localSeconds.fdiv secondsPerDay

def civil (d : Date) : Civil := Civil.ofDay d.day

def clock (d : Date) : ClockTime := ⟨(d.localSeconds.fmod secondsPerDay).toNat, d.nanos⟩

/-- The date at which the local clock shows the given day and time, if it is within the limits. -/
def ofLocal? (day : Int) (time : ClockTime) (offset : Int) : Option Date :=
  let d : Date := ⟨day * secondsPerDay + time.seconds - offset, time.nanos, offset⟩
  if d.inRange then some d else none

protected def compare (a b : Date) : Ordering :=
  (Ord.compare a.seconds b.seconds).then (Ord.compare a.nanos b.nanos)

/-- Nanoseconds since the start of 1970. -/
def instant (d : Date) : Int := d.seconds * nanosPerSecond + d.nanos

/-- The nanoseconds in two seconds, which is where a leap second ends. -/
def leapEnd : Int := 2 * nanosPerSecond

def inLeapSecond (d : Date) : Bool := nanosPerSecond ≤ d.nanos

/-- The second and the nanoseconds in it a given count of nanoseconds later. A step that stays in a
leap second goes on counting there, and one that leaves it at its end does not count it. -/
def moved (d : Date) (nanos : Int) : Date :=
  let inSecond := d.nanos + nanos
  if d.inLeapSecond && nanosPerSecond ≤ inSecond && inSecond < leapEnd then
    { d with nanos := inSecond.toNat }
  else
    let instant :=
      if d.inLeapSecond && leapEnd ≤ inSecond then d.instant + nanos - nanosPerSecond
      else d.instant + nanos
    { d with
      seconds := instant.fdiv nanosPerSecond, nanos := (instant.fmod nanosPerSecond).toNat }

/-- The date a given count of nanoseconds later, at the same offset. -/
def addNanos? (d : Date) (nanos : Int) : Option Date :=
  if nanos = 0 then some d
  else if (d.moved nanos).inRange then some (d.moved nanos)
  else none

def addDays? (d : Date) (days : Int) : Option Date :=
  d.addNanos? (days * secondsPerDay * nanosPerSecond)

/-- The date with another local day and the same time on the local clock. -/
def withDay? (d : Date) (day : Int) : Option Date := ofLocal? day d.clock d.offset

/-- The date a given count of months later on the calendar. A day that the month does not have becomes
its last day. -/
def addMonths? (d : Date) (months : Int) : Option Date :=
  if months = 0 then some d
  else
    let c := d.civil
    let total := c.year * 12 + (c.month - 1 : Nat) + months
    let year := total.fdiv 12
    let month := (total.fmod 12).toNat + 1
    (dayOf? year month (min c.day (monthLength year month))).bind d.withDay?

def startOfDay (d : Date) : Date :=
  (ofLocal? d.day .midnight d.offset).getD d

def isMidnight (d : Date) : Bool := d.clock == .midnight

/-- The start of 1970, to the millisecond. -/
def isEpoch (d : Date) : Bool := d.instant.fdiv nanosPerMilli == 0

/-- The seconds by which a leap second makes the time between two dates longer: it counts where it
lies between two times of the day. -/
def leapBetween (a b : Date) : Int :=
  let timeOfDay (d : Date) : Int := d.seconds.fmod secondsPerDay
  if timeOfDay b < timeOfDay a && b.inLeapSecond then 1
  else if timeOfDay a < timeOfDay b && a.inLeapSecond then -1
  else 0

/-- The whole milliseconds from the second date to the first, toward zero. -/
def millisSince (a b : Date) : Int :=
  (a.instant - b.instant + leapBetween a b * nanosPerSecond).tdiv nanosPerMilli

/-- A natural number with zeros in front, up to a width. -/
def padded (width n : Nat) : String :=
  let digits := Nat.toDigits 10 n
  String.ofList (List.replicate (width - digits.length) '0' ++ digits)

/-- A year of four digits; beyond them it has a sign. -/
def yearText (year : Int) : String :=
  if 0 ≤ year ∧ year < 10000 then padded 4 year.toNat
  else (if year < 0 then "-" else "+") ++ padded 4 year.natAbs

/-- A fraction of a second with three, six or nine digits, or none when it is zero. -/
def fractionText (nanos : Nat) : String :=
  if nanos = 0 then ""
  else if nanos % 1000000 = 0 then "." ++ padded 3 (nanos / 1000000)
  else if nanos % 1000 = 0 then "." ++ padded 6 (nanos / 1000)
  else "." ++ padded 9 nanos

/-- An offset in hours and minutes, rounded to the minute, with a text between them. -/
def offsetText (between : String) (offset : Int) : String :=
  let minutes := (offset.natAbs + 30) / 60
  (if offset < 0 then "-" else "+") ++ padded 2 (minutes / 60) ++ between ++ padded 2 (minutes % 60)

/-- The seconds shown on the clock: sixty in a leap second. -/
def shownSecond (t : ClockTime) : Nat := t.second + t.nanos / 1000000000

/-- The exchange form `2021-04-18T10:00:00.250+02:00`. -/
def isoText (d : Date) : String :=
  let c := d.civil
  let t := d.clock
  yearText c.year ++ "-" ++ padded 2 c.month ++ "-" ++ padded 2 c.day ++ "T" ++
    padded 2 t.hour ++ ":" ++ padded 2 t.minute ++ ":" ++ padded 2 (shownSecond t) ++
    fractionText (t.nanos % 1000000000) ++ offsetText ":" d.offset

/-- The named parts of a date, on the local calendar and clock. -/
def component? (d : Date) (name : String) : Option Number :=
  let whole (n : Nat) : Option Number := some (Number.ofNat n)
  match name with
  | "year" => some (Number.ofInt d.civil.year)
  | "month" => whole d.civil.month
  | "weekyear" => some (Number.ofInt (isoWeek d.day).1)
  | "week" => whole (isoWeek d.day).2
  | "weekday" => whole (weekdayFromMonday d.day + 1)
  | "day" => whole d.civil.day
  | "hour" => whole d.clock.hour
  | "minute" => whole d.clock.minute
  | "second" => whole d.clock.second
  | "millisecond" => whole (d.nanos / 1000000)
  | _ => none

end Date

end DocQuery
