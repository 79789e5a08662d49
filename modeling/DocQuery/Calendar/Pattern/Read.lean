import DocQuery.Calendar.Pattern.Basic
import DocQuery.Calendar.Date
import DocQuery.Number.Text
import DocQuery.Text.Slice

/-!
Reading a date by a pattern. The items of the pattern fill in the known parts of a date, which must
not contradict each other; then the date is found from the parts, and every other known part is
checked against it.
-/

namespace DocQuery.Calendar

open Text

/-- The parts of a date that a text has given so far. -/
structure KnownParts where
  year : Option Int := none
  century : Option Int := none
  yearOfCentury : Option Int := none
  isoYear : Option Int := none
  isoYearOfCentury : Option Int := none
  isoWeek : Option Int := none
  quarter : Option Int := none
  month : Option Int := none
  dayOfMonth : Option Int := none
  dayOfYear : Option Int := none
  weekFromSunday : Option Int := none
  weekFromMonday : Option Int := none
  /-- From zero for Monday. -/
  weekday : Option Int := none
  /-- Zero before noon and one after. -/
  half : Option Int := none
  hourOfHalf : Option Int := none
  minute : Option Int := none
  second : Option Int := none
  nanos : Option Int := none
  timestamp : Option Int := none
  offset : Option Int := none

namespace KnownParts

/-- A part that is given again must be the same. -/
def agree? (known : Option Int) (value : Int) : Option (Option Int) :=
  match known with
  | none => some (some value)
  | some old => if old = value then some (some old) else none

def within? (low high value : Int) : Option Int :=
  if low ≤ value ∧ value ≤ high then some value else none

/-- Years lie within 32 bits. -/
def yearBound : Int := Nat.pow 2 31

def setHour? (parts : KnownParts) (hour : Int) : Option KnownParts := do
  let hour ← within? 0 23 hour
  let half ← agree? parts.half (hour / 12)
  let hourOfHalf ← agree? parts.hourOfHalf (hour % 12)
  return { parts with half, hourOfHalf }

def set? (parts : KnownParts) (part : NumericPart) (value : Int) : Option KnownParts := do
  match part with
  | .year =>
    return { parts with year := ← agree? parts.year (← within? (-yearBound) (yearBound - 1) value) }
  | .century => return { parts with century := ← agree? parts.century value }
  | .yearOfCentury => return { parts with yearOfCentury := ← agree? parts.yearOfCentury value }
  | .isoYear =>
    return { parts with isoYear := ← agree? parts.isoYear (← within? (-yearBound) (yearBound - 1) value) }
  | .isoYearOfCentury =>
    return { parts with isoYearOfCentury := ← agree? parts.isoYearOfCentury value }
  | .isoWeek => return { parts with isoWeek := ← agree? parts.isoWeek (← within? 1 53 value) }
  | .quarter => return { parts with quarter := ← agree? parts.quarter (← within? 1 4 value) }
  | .month => return { parts with month := ← agree? parts.month (← within? 1 12 value) }
  | .dayOfMonth =>
    return { parts with dayOfMonth := ← agree? parts.dayOfMonth (← within? 1 31 value) }
  | .dayOfYear => return { parts with dayOfYear := ← agree? parts.dayOfYear (← within? 1 366 value) }
  | .weekFromSunday =>
    return { parts with weekFromSunday := ← agree? parts.weekFromSunday (← within? 0 53 value) }
  | .weekFromMonday =>
    return { parts with weekFromMonday := ← agree? parts.weekFromMonday (← within? 0 53 value) }
  | .weekdayFromSunday =>
    return { parts with weekday := ← agree? parts.weekday (((← within? 0 6 value) + 6) % 7) }
  | .weekdayFromMonday =>
    return { parts with weekday := ← agree? parts.weekday ((← within? 1 7 value) - 1) }
  | .hour => parts.setHour? value
  | .hourOfHalf =>
    return { parts with hourOfHalf := ← agree? parts.hourOfHalf ((← within? 1 12 value) % 12) }
  | .minute => return { parts with minute := ← agree? parts.minute (← within? 0 59 value) }
  | .second => return { parts with second := ← agree? parts.second (← within? 0 60 value) }
  | .nanos => return { parts with nanos := ← agree? parts.nanos (← within? 0 999999999 value) }
  | .timestamp => return { parts with timestamp := ← agree? parts.timestamp value }

/-- The greatest number of digits that a numeric part takes from a text without an explicit sign. A
timestamp takes all of them. -/
def width (cs : List Char) : NumericPart → Nat
  | .year | .isoYear => 4
  | .quarter | .weekdayFromSunday | .weekdayFromMonday => 1
  | .dayOfYear => 3
  | .nanos => 9
  | .timestamp => cs.length
  | _ => 2

/-- Whether a sign may stand before a part; the digits then have no limit. -/
def signed : NumericPart → Bool
  | .year | .isoYear => true
  | _ => false

/-- Reads at least one and at most `most` digits, below the limit of 63 bits. -/
def readNat? (most : Nat) (cs : List Char) : Option (Nat × List Char) :=
  let digits := (cs.take most).takeWhile Char.isDigit
  let value := natOfDigits digits
  if digits.isEmpty ∨ Nat.pow 2 63 ≤ value then none else some (value, cs.drop digits.length)

def readNumeric? (parts : KnownParts) (part : NumericPart) (cs : List Char) :
    Option (KnownParts × List Char) := do
  let cs := trimStart cs
  let (value, rest) ← match signed part, cs with
    | true, '-' :: more => do
      let (value, rest) ← readNat? more.length more
      some (-(value : Int), rest)
    | true, '+' :: more => do
      let (value, rest) ← readNat? more.length more
      some ((value : Int), rest)
    | _, cs => do
      let (value, rest) ← readNat? (width cs part) cs
      some ((value : Int), rest)
  return (← parts.set? part value, rest)

/-- Whether a text begins with a word, up to the case of letters. -/
def startsWithWord (word cs : List Char) : Bool :=
  (word.map Char.toLower).isPrefixOf (cs.map Char.toLower)

/-- The index of the name whose short form a text begins with, and the rest of the text. A long form
is taken whole when `long` allows it. -/
def readName? (names : List String) (long : Bool) (cs : List Char) : Option (Nat × List Char) :=
  (List.range names.length).findSome? fun index =>
    let name := ((names[index]?).getD "").toList
    if !startsWithWord (name.take 3) cs then none
    else if long && startsWithWord name cs then some (index, cs.drop name.length)
    else some (index, cs.drop 3)

/-- Reads a fraction of a second of at most nine digits and skips further ones. -/
def readFraction? (cs : List Char) : Option (Int × List Char) :=
  let digits := cs.takeWhile Char.isDigit
  let kept := digits.take 9
  if digits.isEmpty then none
  else some (natOfDigits kept * Nat.pow 10 (9 - kept.length), cs.drop digits.length)

def readFixedFraction? (count : Nat) (cs : List Char) : Option (Int × List Char) :=
  let digits := (cs.take count).takeWhile Char.isDigit
  if digits.length < count then none
  else some (natOfDigits digits * Nat.pow 10 (9 - count), cs.drop count)

/-- Reads an offset: a sign, two digits for the hours, any colons and blanks, and two digits for the
minutes. -/
def readOffset? (lenient : Bool) (cs : List Char) : Option (Int × List Char) :=
  match lenient, cs with
  | true, 'Z' :: rest => some (0, rest)
  | true, 'z' :: rest => some (0, rest)
  | _, sign :: h₁ :: h₂ :: rest =>
    if !(sign = '+' ∨ sign = '-' ∨ sign = '−') ∨ !h₁.isDigit ∨ !h₂.isDigit then none
    else
      let hours : Int := natOfDigits [h₁, h₂]
      let direction : Int := if sign = '+' then 1 else -1
      match rest.dropWhile fun c => c = ':' ∨ isBlank c with
      | m₁ :: m₂ :: rest =>
        if !m₁.isDigit ∨ !m₂.isDigit ∨ '5' < m₁ then none
        else some (direction * (hours * 3600 + natOfDigits [m₁, m₂] * 60), rest)
      | [] => if lenient then some (direction * hours * 3600, []) else none
      | _ => none
  | _, _ => none

def setOffset? (parts : KnownParts) (read : Option (Int × List Char)) :
    Option (KnownParts × List Char) := do
  let (value, rest) ← read
  return ({ parts with offset := ← agree? parts.offset value }, rest)

def setNanos? (parts : KnownParts) (read : Option (Int × List Char)) :
    Option (KnownParts × List Char) := do
  let (value, rest) ← read
  return ({ parts with nanos := ← agree? parts.nanos value }, rest)

/-- Reads `am` or `pm` in any letter case. -/
def readHalf? (parts : KnownParts) (cs : List Char) : Option (KnownParts × List Char) := do
  let value : Int ←
    if startsWithWord ['a', 'm'] cs then some 0
    else if startsWithWord ['p', 'm'] cs then some 1
    else none
  return ({ parts with half := ← agree? parts.half value }, cs.drop 2)

/-- Reads the parts in front of the offset in the exchange form. -/
def readExchange? (parts : KnownParts) (cs : List Char) : Option (KnownParts × List Char) := do
  let separator (c : Char) (cs : List Char) : Option (List Char) := dropStart? [c] (trimStart cs)
  let (parts, cs) ← parts.readNumeric? .year cs
  let (parts, cs) ← parts.readNumeric? .month (← separator '-' cs)
  let (parts, cs) ← parts.readNumeric? .dayOfMonth (← separator '-' cs)
  let cs ← match cs with
    | c :: rest => if c = 'T' ∨ c = 't' ∨ c = ' ' then some rest else none
    | [] => none
  let (parts, cs) ← parts.readNumeric? .hour cs
  let (parts, cs) ← parts.readNumeric? .minute (← separator ':' cs)
  let (parts, cs) ← parts.readNumeric? .second (← separator ':' cs)
  let (parts, cs) ← match cs with
    | '.' :: rest => parts.setNanos? (readFraction? rest)
    | cs => some (parts, cs)
  let cs := trimStart cs
  if startsWithWord ['u', 't', 'c'] cs then parts.setOffset? (some (0, cs.drop 3))
  else if cs.head? = some 'Z' ∨ cs.head? = some 'z' then parts.setOffset? (some (0, cs.drop 1))
  else parts.setOffset? (readOffset? false cs)

def readNamed? (parts : KnownParts) (cs : List Char) :
    NamedPart → Option (KnownParts × List Char)
  | .shortMonth => month (readName? monthNames false cs)
  | .longMonth => month (readName? monthNames true cs)
  | .shortWeekday => weekday (readName? weekdayNames false cs)
  | .longWeekday => weekday (readName? weekdayNames true cs)
  | .lowerHalf => parts.readHalf? cs
  | .upperHalf => parts.readHalf? cs
  | .fraction =>
    match cs with
    | '.' :: rest => parts.setNanos? (readFraction? rest)
    | _ => some (parts, cs)
  | .pointedFraction digits =>
    match cs with
    | '.' :: rest => parts.setNanos? (readFixedFraction? digits rest)
    | _ => some (parts, cs)
  | .bareFraction digits => parts.setNanos? (readFixedFraction? digits cs)
  | .zoneName => some (parts, cs.dropWhile (!isBlank ·))
  | .offset .lenient => parts.setOffset? (readOffset? true (trimStart cs))
  | .offset _ => parts.setOffset? (readOffset? false (trimStart cs))
  | .exchange => parts.readExchange? cs
where
  month (read : Option (Nat × List Char)) : Option (KnownParts × List Char) := do
    let (index, rest) ← read
    return (← parts.set? .month (index + 1), rest)
  weekday (read : Option (Nat × List Char)) : Option (KnownParts × List Char) := do
    let (index, rest) ← read
    return (← parts.set? .weekdayFromMonday (index + 1), rest)

/-- Reads one item. Blanks of a pattern stand for any count of blanks. -/
def readItem? (parts : KnownParts) (cs : List Char) :
    PatternItem → Option (KnownParts × List Char)
  | .literal expected => (dropStart? expected cs).map fun rest => (parts, rest)
  | .blank _ => some (parts, trimStart cs)
  | .numeric part _ => parts.readNumeric? part cs
  | .named part => parts.readNamed? cs part

def ofItems? (parts : KnownParts) : List PatternItem → List Char → Option KnownParts
  | [], [] => some parts
  | [], _ :: _ => none
  | item :: items, cs => do
    let (parts, rest) ← parts.readItem? cs item
    ofItems? parts items rest

/-- The year from its full form, or from the century and the year in it. A year of two digits alone
lies between 1970 and 2069. The outer option is none when the parts contradict each other. -/
def resolveYear? (year century inCentury : Option Int) : Option (Option Int) :=
  match year, century, inCentury with
  | year, none, none => some year
  | some year, century, inCentury =>
    if year < 0 ∨ century.getD (year / 100) ≠ year / 100 ∨
        inCentury.getD (year % 100) ≠ year % 100 then none
    else some (some year)
  | none, some century, some inCentury => some (some (century * 100 + inCentury))
  | none, none, some inCentury =>
    some (some (inCentury + if inCentury < 70 then 2000 else 1900))
  | none, some _, none => none

/-- A part that is known must have the given value. -/
def fits (known : Option Int) (value : Int) : Bool := known.getD value == value

/-- Whether the known parts of the civil date agree with a day. -/
def fitsCivil (parts : KnownParts) (day : Int) : Bool :=
  let c := Civil.ofDay day
  fits parts.year c.year && fits parts.month c.month && fits parts.dayOfMonth c.day &&
    (if 0 ≤ c.year then fits parts.century (c.year / 100) && fits parts.yearOfCentury (c.year % 100)
     else parts.century.isNone && parts.yearOfCentury.isNone)

def fitsWeek (parts : KnownParts) (day : Int) : Bool :=
  let (year, week) := Calendar.isoWeek day
  fits parts.isoYear year && fits parts.isoWeek week && fits parts.weekday (weekdayFromMonday day) &&
    (if 0 ≤ year then fits parts.isoYearOfCentury (year % 100) else parts.isoYearOfCentury.isNone)

/-- Whether the known parts counted in the year agree with a day. -/
def fitsYear (parts : KnownParts) (day : Int) : Bool :=
  fits parts.dayOfYear (ordinal day) &&
    fits parts.weekFromSunday (weekOfYear day (weekdayFromSunday day)) &&
    fits parts.weekFromMonday (weekOfYear day (weekdayFromMonday day))

/-- The day of the year with the given place, if the year is within the limits and has it. -/
def dayInYear? (year ordinal : Int) : Option Int :=
  if firstYear ≤ year ∧ year ≤ lastYear ∧ 1 ≤ ordinal ∧ ordinal ≤ yearLength year then
    some (newYear year + ordinal - 1)
  else none

/-- The day with the given weekday in a counted week of a year; `start` numbers the weekday that a
week begins on, from zero for Monday. Week zero holds the days before the first such weekday. -/
def dayOfWeek? (year week weekday start : Int) : Option Int :=
  let firstOfYear := newYear year
  let untilStart := (start - weekdayFromMonday firstOfYear).fmod 7
  let ordinal := 1 + untilStart + (week - 1) * 7 + (weekday - start).fmod 7
  dayInYear? year ordinal

/-- The day of a week date, if the year has that week. -/
def dayOfIsoWeek? (year week weekday : Int) : Option Int :=
  if firstYear ≤ year ∧ year ≤ lastYear then
    let fourth := newYear year + 3
    let day := fourth - weekdayFromMonday fourth + (week - 1) * 7 + weekday
    if (Calendar.isoWeek day).1 = year ∧ (Civil.ofDay day).inRange then some day else none
  else none

/-- The day that the known parts determine, if they determine one and agree with it. -/
def day? (parts : KnownParts) : Option Int := do
  let year ← resolveYear? parts.year parts.century parts.yearOfCentury
  let isoYear ← resolveYear? parts.isoYear none parts.isoYearOfCentury
  let day ←
    match year, parts.month, parts.dayOfMonth, parts.dayOfYear, parts.weekFromSunday,
      parts.weekFromMonday, parts.weekday with
    | some year, some month, some dayOfMonth, _, _, _, _ => dayOf? year month.toNat dayOfMonth.toNat
    | some year, _, _, some ordinal, _, _, _ => dayInYear? year ordinal
    | some year, _, _, _, some week, _, some weekday => dayOfWeek? year week weekday 6
    | some year, _, _, _, _, some week, some weekday => dayOfWeek? year week weekday 0
    | _, _, _, _, _, _, some weekday => do dayOfIsoWeek? (← isoYear) (← parts.isoWeek) weekday
    | _, _, _, _, _, _, none => none
  if parts.fitsCivil day && parts.fitsWeek day && parts.fitsYear day &&
      fits parts.quarter (((Civil.ofDay day).month - 1) / 3 + 1 : Nat) then
    some day
  else none

/-- The time of day that the known parts determine. Seconds may be missing, but not when there is a
fraction. -/
def clock? (parts : KnownParts) : Option ClockTime := do
  let hour := (← parts.half) * 12 + (← parts.hourOfHalf)
  let minute ← parts.minute
  if parts.second.isNone && parts.nanos.isSome then none
  else
    let (second, extra) : Int × Int :=
      match parts.second with
      | some 60 => (59, 1000000000)
      | some second => (second, 0)
      | none => (0, 0)
    ClockTime.ofParts? hour.toNat minute.toNat second.toNat (parts.nanos.getD 0 + extra).toNat

/-- Fills in the parts of a date that a timestamp determines, shown at an offset. -/
def withTimestamp? (parts : KnownParts) (timestamp offset : Int) : Option KnownParts := do
  let shown : Date := ⟨timestamp + offset, 0, 0⟩
  let shown : Date ←
    if parts.second = some 60 then
      if shown.clock.second = 59 then some shown
      else if shown.clock.second = 0 then some { shown with seconds := shown.seconds - 1 }
      else none
    else some shown
  if !shown.inRange then none
  else
    let parts ← if parts.second = some 60 then some parts else parts.set? .second shown.clock.second
    let parts ← parts.set? .year shown.civil.year
    let parts ← parts.set? .dayOfYear (ordinal shown.day)
    let parts ← parts.set? .hour shown.clock.hour
    parts.set? .minute shown.clock.minute

/-- The local day and time that the known parts determine, at a given offset. A timestamp must agree
with the other parts, or fills in what they lack. -/
def local? (parts : KnownParts) (offset : Int) : Option (Int × ClockTime) :=
  match parts.day?, parts.clock? with
  | some day, some time =>
    let seconds := day * 86400 + time.seconds - offset
    match parts.timestamp with
    | none => some (day, time)
    | some given =>
      if given = seconds ∨ (1000000000 ≤ time.nanos ∧ given = seconds + 1) then some (day, time)
      else none
  | _, _ => do
    let filled ← parts.withTimestamp? (← parts.timestamp) offset
    return (← filled.day?, ← filled.clock?)

/-- The date that the known parts determine: with their offset, or in world time when there is a
timestamp. -/
def date? (parts : KnownParts) : Option Date := do
  let offset ← parts.offset.orElse fun _ => parts.timestamp.map fun _ => 0
  let (day, time) ← parts.local? offset
  if Date.offsetInRange offset then Date.ofLocal? day time offset else none

end KnownParts

end DocQuery.Calendar

namespace DocQuery.Date

open Calendar

/-- Reads a date by a pattern: with its own offset if the parts give one, else a local time, else a
day, in world time. -/
def ofPattern? (text pattern : String) : Option Date := do
  let items ← PatternItem.ofText? pattern
  let parts ← KnownParts.ofItems? {} items text.toList
  parts.date?.orElse fun _ =>
    match parts.local? 0 with
    | some (day, time) => ofLocal? day time 0
    | none => do ofLocal? (← parts.day?) .midnight 0

end DocQuery.Date
