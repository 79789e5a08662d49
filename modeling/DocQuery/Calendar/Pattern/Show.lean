import DocQuery.Calendar.Pattern.Basic
import DocQuery.Calendar.Date

/-!
Showing a date by a pattern.
-/

namespace DocQuery.Date

open Calendar

/-- Fills an integer up to a width; the sign counts as part of the text. -/
def filled (padding : Padding) (width : Nat) (sign : String) (n : Nat) : String :=
  let digits := toString n
  let missing := width - (sign.length + digits.length)
  match padding with
  | .bare => sign ++ digits
  | .zeros => sign ++ String.ofList (List.replicate missing '0') ++ digits
  | .spaces => String.ofList (List.replicate missing ' ') ++ sign ++ digits

/-- Two digits. A number of three digits keeps two places, the first of which continues behind the
digit nine in the order of characters. -/
def twoDigits (padding : Padding) (n : Nat) : String :=
  let byte := n % 256
  let ones := Char.ofNat ('0'.toNat + byte % 10)
  match byte / 10, padding with
  | 0, .bare => String.ofList [ones]
  | 0, .spaces => String.ofList [' ', ones]
  | tens, _ => String.ofList [Char.ofNat ('0'.toNat + tens), ones]

/-- A year of at least four digits, with a sign when it has more or is negative. -/
def paddedYear (padding : Padding) (year : Int) : String :=
  if 0 ≤ year ∧ year < 10000 then filled padding 4 "" year.toNat
  else filled padding 5 (if year < 0 then "-" else "+") year.natAbs

/-- The hour of a clock that starts over at noon. -/
def hourOfHalf (hour : Nat) : Nat := if hour % 12 = 0 then 12 else hour % 12

def numericText (d : Date) (padding : Padding) : NumericPart → String
  | .year => paddedYear padding d.civil.year
  | .century => twoDigits padding (d.civil.year.fdiv 100 % 256).toNat
  | .yearOfCentury => twoDigits padding (d.civil.year.fmod 100).toNat
  | .isoYear => paddedYear padding (isoWeek d.day).1
  | .isoYearOfCentury => twoDigits padding ((isoWeek d.day).1.fmod 100).toNat
  | .isoWeek => twoDigits padding (isoWeek d.day).2
  | .quarter => toString ((d.civil.month - 1) / 3 + 1)
  | .month => twoDigits padding d.civil.month
  | .dayOfMonth => twoDigits padding d.civil.day
  | .dayOfYear => filled padding 3 "" (ordinal d.day)
  | .weekFromSunday => twoDigits padding (weekOfYear d.day (weekdayFromSunday d.day))
  | .weekFromMonday => twoDigits padding (weekOfYear d.day (weekdayFromMonday d.day))
  | .weekdayFromSunday => toString (weekdayFromSunday d.day)
  | .weekdayFromMonday => toString (weekdayFromMonday d.day + 1)
  | .hour => twoDigits padding d.clock.hour
  | .hourOfHalf => twoDigits padding (hourOfHalf d.clock.hour)
  | .minute => twoDigits padding d.clock.minute
  | .second => twoDigits padding (shownSecond d.clock)
  | .nanos => filled padding 9 "" (d.nanos % 1000000000)
  | .timestamp => filled padding 9 (if d.seconds < 0 then "-" else "") d.seconds.natAbs

/-- An offset with the seconds, used where the offset stands for a zone. -/
def exactOffsetText (offset : Int) : String :=
  let size := offset.natAbs
  (if offset < 0 then "-" else "+") ++ padded 2 (size / 3600) ++ ":" ++ padded 2 (size / 60 % 60)
    ++ ":" ++ padded 2 (size % 60)

/-- The text of an offset; the lenient form is for reading only. -/
def offsetFormText? (offset : Int) : OffsetForm → Option String
  | .plain => some (offsetText "" offset)
  | .colon => some (offsetText ":" offset)
  | .doubleColon => some (exactOffsetText offset)
  | .tripleColon => some ((if offset < 0 then "-" else "+") ++ padded 2 (offset.natAbs / 3600))
  | .lenient => none

/-- The offset as the name of a zone: seconds only when there are some. -/
def zoneNameText (offset : Int) : String :=
  if offset.natAbs % 60 = 0 then offsetText ":" offset else exactOffsetText offset

def namedText? (d : Date) : NamedPart → Option String
  | .shortMonth => (monthNames[d.civil.month - 1]?).map shortName
  | .longMonth => monthNames[d.civil.month - 1]?
  | .shortWeekday => (weekdayNames[weekdayFromMonday d.day]?).map shortName
  | .longWeekday => weekdayNames[weekdayFromMonday d.day]?
  | .lowerHalf => some (if d.clock.hour < 12 then "am" else "pm")
  | .upperHalf => some (if d.clock.hour < 12 then "AM" else "PM")
  | .fraction => some (fractionText (d.nanos % 1000000000))
  | .pointedFraction digits =>
    some ("." ++ padded digits (d.nanos % 1000000000 / Nat.pow 10 (9 - digits)))
  | .bareFraction digits => some (padded digits (d.nanos % 1000000000 / Nat.pow 10 (9 - digits)))
  | .zoneName => some (zoneNameText d.offset)
  | .offset form => offsetFormText? d.offset form
  | .exchange => some d.isoText

def itemText? (d : Date) : PatternItem → Option String
  | .literal cs => some (String.ofList cs)
  | .blank cs => some (String.ofList cs)
  | .numeric part padding => some (numericText d padding part)
  | .named part => namedText? d part

/-- The date shown by a pattern, if the pattern can be read and shown. -/
def show? (d : Date) (pattern : String) : Option String := do
  let items ← PatternItem.ofText? pattern
  return String.join (← items.mapM d.itemText?)

end DocQuery.Date
