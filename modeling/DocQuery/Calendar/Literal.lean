import DocQuery.Calendar.Date
import DocQuery.Number.Text
import DocQuery.Text.Slice

/-!
Dates as they are written in queries: literals of partial precision, and names that stand for a date
relative to the present.
-/

namespace DocQuery.Date

open Calendar Text

/-- A non-empty list of decimal digits. -/
def isDigits (cs : List Char) : Bool := !cs.isEmpty && cs.all Char.isDigit

/-- The number that digits denote, if it is below the limit of 32 bits. -/
def smallNat? (digits : List Char) : Option Nat :=
  let n := natOfDigits digits
  if n < Nat.pow 2 32 then some n else none

/-- Reads an offset: a sign and two or four digits, with colons anywhere behind the sign. -/
def readOffset? (cs : List Char) : Option Int :=
  let sign : Int := if cs.head? = some '-' then -1 else 1
  let digits := (cs.drop 1).filter (· != ':')
  if !digits.all Char.isDigit then none
  else
    let size? : Option Nat :=
      if digits.length = 2 then some (natOfDigits digits * 3600)
      else if digits.length = 4 then
        some (natOfDigits (digits.take 2) * 3600 + natOfDigits (digits.drop 2) * 60)
      else none
    size?.bind fun size => if offsetInRange (sign * size) then some (sign * size) else none

/-- Splits off the zone: a final `Z`, or everything from the last sign on. -/
def splitZone? (cs : List Char) : Option (List Char × Option Int) :=
  match dropEnd? ['Z'] cs with
  | some clock => some (clock, some 0)
  | none =>
    let isSign (c : Char) : Bool := c = '+' || c = '-'
    let zoneLength := (cs.reverse.takeWhile (!isSign ·)).length + 1
    if cs.length < zoneLength then some (cs, none)
    else
      let clockLength := cs.length - zoneLength
      (readOffset? (cs.drop clockLength)).map fun offset => (cs.take clockLength, some offset)

/-- The milliseconds that a decimal fraction of a second begins with. -/
def fractionMillis (digits : List Char) : Nat :=
  natOfDigits ((digits ++ ['0', '0', '0']).take 3)

/-- A field of the clock has two digits. -/
def readClockField? (cs : List Char) : Option Nat :=
  if cs.length = 2 ∧ isDigits cs then some (natOfDigits cs) else none

/-- Reads a time of day `hh`, `hh:mm` or `hh:mm:ss` with an optional fraction. -/
def readClock? (cs : List Char) : Option ClockTime := do
  let (fields, millis) ← match splitFirst? '.' cs with
    | some (fields, fraction) =>
      if isDigits fraction then some (fields, fractionMillis fraction) else none
    | none => some (cs, 0)
  let numbers ← (cutAt ':' fields).mapM readClockField?
  let nanos := millis * 1000000
  match numbers with
  | [hour] => ClockTime.ofParts? hour 0 0 nanos
  | [hour, minute] => ClockTime.ofParts? hour minute 0 nanos
  | [hour, minute, second] => ClockTime.ofParts? hour minute second nanos
  | _ => none

/-- Reads the day of a literal; without a day of the month it is the first, and then no time of day
may follow. -/
def readDay? (timed : Bool) (cs : List Char) : Option Int :=
  let pieces := cutAt '-' cs
  if !pieces.all isDigits then none
  else match pieces with
    | [year, month] =>
      if year.length ≠ 4 ∨ timed then none
      else do dayOf? (natOfDigits year) (← smallNat? month) 1
    | [year, month, day] =>
      if year.length ≠ 4 then none
      else do dayOf? (natOfDigits year) (← smallNat? month) (← smallNat? day)
    | _ => none

/-- A local zone: the offset at a time that local clocks show, in seconds since the start of 1970. Where clocks
are turned back it is the earlier of two, and a time that clocks skip has none. -/
abbrev LocalZone := Int → Option Int

/-- The zone of world time, for which nothing but the offset of a text says otherwise. -/
def worldTime : LocalZone := fun _ => some 0

/-- The date at which clocks show the given day and time at an offset, or in the local zone if there is none. -/
def localize? (zone : LocalZone) (day : Int) (time : ClockTime) (offset? : Option Int) : Option Date := do
  let offset ← offset?.orElse fun _ => zone (day * secondsPerDay + time.seconds)
  ofLocal? day time offset

/-- Reads a date literal: `2021-04`, or `2021-04-18` with an optional time of day and offset. Queries are read
in world time. -/
def ofLiteral? (text : String) (zone : LocalZone := worldTime) : Option Date :=
  let cs := trim text.toList
  match splitFirst? 'T' cs with
  | none => do localize? zone (← readDay? false cs) .midnight none
  | some (dayPart, timePart) => do
    let day ← readDay? true dayPart
    let (clock, offset?) ← splitZone? timePart
    localize? zone day (← readClock? clock) offset?

/-- The last millisecond before a date. -/
def justBefore? (next : Date) : Option Date := next.addNanos? (-nanosPerMilli)

/-- The first day of the month at the same time of day. -/
def monthStart? (d : Date) : Option Date :=
  (dayOf? d.civil.year d.civil.month 1).bind d.withDay?

/-- The first day of the year at the same time of day. -/
def yearStart? (d : Date) : Option Date :=
  (dayOf? d.civil.year 1 1).bind d.withDay?

/-- The date that a name stands for: the present, a day next to it, or the start or end of the week,
month or year around it. -/
def named? (now : Date) (name : String) : Option Date :=
  let today := now.startOfDay
  let weekStart? := today.addDays? (-(weekdayFromMonday now.day : Int))
  match name with
  | "now" => some now
  | "today" => some today
  | "yesterday" => today.addDays? (-1)
  | "tomorrow" => today.addDays? 1
  | "sow" => weekStart?
  | "eow" => do justBefore? (← (← weekStart?).addDays? 7)
  | "som" => today.monthStart?
  | "eom" => do justBefore? (← (← today.monthStart?).addMonths? 1)
  | "soy" => today.yearStart?
  | "eoy" => do justBefore? (← (← today.yearStart?).addMonths? 12)
  | _ => none

/-- Reads a name or a literal, names first. -/
def ofText? (now : Date) (text : String) : Option Date :=
  (named? now (trimmed text)).orElse fun _ => ofLiteral? text

end DocQuery.Date
