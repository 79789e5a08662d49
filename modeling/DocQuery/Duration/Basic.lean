import DocQuery.Calendar.Date
import DocQuery.Decimal

/-!
Spans of time. A span keeps a count for each unit, because a month is no fixed time; it becomes a
number of milliseconds only to be compared, with months of 30 days and years of 365.
-/

namespace DocQuery

inductive DurationUnit where
  | year | month | week | day | hour | minute | second | millisecond
  deriving DecidableEq

namespace DurationUnit

def all : List DurationUnit := [year, month, week, day, hour, minute, second, millisecond]

def label : DurationUnit → String
  | year => "year"
  | month => "month"
  | week => "week"
  | day => "day"
  | hour => "hour"
  | minute => "minute"
  | second => "second"
  | millisecond => "millisecond"

def millis : DurationUnit → Nat
  | year => 365 * 86400000
  | month => 30 * 86400000
  | week => 7 * 86400000
  | day => 86400000
  | hour => 3600000
  | minute => 60000
  | second => 1000
  | millisecond => 1

def spellings : DurationUnit → List String
  | year => ["year", "years", "yr", "yrs"]
  | month => ["month", "months", "mo", "mos"]
  | week => ["week", "weeks", "wk", "wks", "w"]
  | day => ["day", "days", "d"]
  | hour => ["hour", "hours", "hr", "hrs", "h"]
  | minute => ["minute", "minutes", "min", "mins", "m"]
  | second => ["second", "seconds", "sec", "secs", "s"]
  | millisecond => ["millisecond", "milliseconds", "ms"]

end DurationUnit

/-- A span of time: a number for each unit, which may be negative or fractional. -/
structure Duration where
  years : Number
  months : Number
  weeks : Number
  days : Number
  hours : Number
  minutes : Number
  seconds : Number
  milliseconds : Number
  deriving DecidableEq

namespace Duration

def count (d : Duration) : DurationUnit → Number
  | .year => d.years
  | .month => d.months
  | .week => d.weeks
  | .day => d.days
  | .hour => d.hours
  | .minute => d.minutes
  | .second => d.seconds
  | .millisecond => d.milliseconds

def ofCounts (f : DurationUnit → Number) : Duration :=
  ⟨f .year, f .month, f .week, f .day, f .hour, f .minute, f .second, f .millisecond⟩

def zero : Duration := ofCounts fun _ => 0

def single (unit : DurationUnit) (count : Number) : Duration :=
  ofCounts fun u => if u = unit then count else 0

/-- Unit by unit. -/
def zip (f : Number → Number → Number) (a b : Duration) : Duration :=
  ofCounts fun unit => f (a.count unit) (b.count unit)

def plus : Duration → Duration → Duration := zip (· + ·)

def minus : Duration → Duration → Duration := zip (· - ·)

def scale (d : Duration) (factor : Number) : Duration :=
  ofCounts fun unit => d.count unit * factor

/-- The length in milliseconds of the counts of one unit. -/
def unitMillis (d : Duration) (unit : DurationUnit) : Number :=
  d.count unit * Number.ofNat unit.millis

/-- The length in milliseconds, summed from the largest unit down. -/
def toMillis (d : Duration) : Number :=
  d.unitMillis .year + d.unitMillis .month + d.unitMillis .week + d.unitMillis .day
    + d.unitMillis .hour + d.unitMillis .minute + d.unitMillis .second + d.milliseconds

def toSeconds (d : Duration) : Number := d.toMillis / 1000

def isZero (d : Duration) : Bool := d.toMillis.isZero

/-- Splits the whole counts of a unit off a number of milliseconds. -/
def splitOff (unit : DurationUnit) (rest : Number) : Number × Number :=
  let size := Number.ofNat unit.millis
  let count := (rest / size).floor
  (count, rest - count * size)

/-- A number of milliseconds in days and smaller units, each with the sign of the number. -/
def ofMillis (total : Number) : Duration :=
  let sign : Number := if total.isNegative then -1 else 1
  let (days, rest) := splitOff .day total.abs
  let (hours, rest) := splitOff .hour rest
  let (minutes, rest) := splitOff .minute rest
  let (seconds, rest) := splitOff .second rest
  { years := 0, months := 0, weeks := 0,
    days := sign * days, hours := sign * hours, minutes := sign * minutes,
    seconds := sign * seconds, milliseconds := sign * rest.round }

def unitNamed? (name : String) : Option DurationUnit :=
  DurationUnit.all.find? fun unit => unit.label ++ "s" == name

def component? (d : Duration) (name : String) : Option Number := (unitNamed? name).map d.count

end Duration

namespace Date

def monthsOf (span : Duration) (sign : Number) : Number :=
  sign * (span.years * 12 + span.months)

/-- The milliseconds by which a span moves a date beside its whole months: a fraction of a month
counts as that fraction of 30 days. -/
def millisOf (span : Duration) (sign : Number) : Number :=
  let months := monthsOf span sign
  let leftoverDays := (months - months.trunc) * 30
  let elapsed := span.unitMillis .week + span.unitMillis .day + span.unitMillis .hour
    + span.unitMillis .minute + span.unitMillis .second + span.milliseconds
  (sign * elapsed + leftoverDays * Number.ofNat DurationUnit.day.millis).round

/-- The greatest number of months a date is moved by. -/
def maxMonths : Nat := Nat.pow 2 32 - 1

/-- The date moved by a span, forward for the sign one and back for minus one. Years and months move
along the calendar, everything else is elapsed time. There is none beyond the limits of dates. -/
def shift? (d : Date) (span : Duration) (sign : Number) : Option Date := do
  let months ← (monthsOf span sign).toInt?
  if (Number.ofNat maxMonths).less (monthsOf span sign).abs then none
  else
    let moved ← d.addMonths? months
    let millis := millisOf span sign
    if !millis.abs.less (Number.ofNat (Nat.pow 2 63)) then none
    else moved.addNanos? ((← millis.toInt?) * nanosPerMilli)

/-- The span from the second date to the first, in days and smaller units. -/
def difference (a b : Date) : Duration := .ofMillis (Number.ofInt (a.millisSince b))

end Date

end DocQuery
