import DocQuery.Duration.Basic
import DocQuery.Number.Text
import DocQuery.Text.LetterCase
import DocQuery.Text.Slice

/-!
Spans of time as texts: the form for people, the form of the exchange standard, and the literals in
queries.
-/

namespace DocQuery

open Text

/-- The unit with a given spelling, in any letter case. -/
def DurationUnit.ofSpelling? (name : String) : Option DurationUnit :=
  DurationUnit.all.find? fun unit => unit.spellings.contains (lower name)

namespace Duration

/-- The counts that are not zero, with their units, largest first. -/
def nonzero (d : Duration) : List (DurationUnit × Number) :=
  (DurationUnit.all.map fun unit => (unit, d.count unit)).filter fun (_, count) => !count.isZero

/-- A count with its unit, in the plural unless it is one. -/
def segmentText (unit : DurationUnit) (count : Number) : String :=
  count.display ++ " " ++ unit.label ++ (if count.abs = 1 then "" else "s")

/-- The form for people: the units that are not zero. -/
def render (d : Duration) : String :=
  match d.nonzero with
  | [] => "0 seconds"
  | parts => ", ".intercalate (parts.map fun (unit, count) => segmentText unit count)

/-- Counts that are not zero, each followed by its letter. -/
def lettered (counts : List (Number × String)) : String :=
  String.join ((counts.filter fun (count, _) => !count.isZero).map fun (count, letter) =>
    count.display ++ letter)

/-- The form of the exchange standard, such as `P1Y2DT3H`; seconds include the milliseconds. -/
def isoText (d : Duration) : String :=
  let days := lettered [(d.years, "Y"), (d.months, "M"), (d.weeks, "W"), (d.days, "D")]
  let seconds := d.seconds + d.milliseconds / 1000
  let time := lettered [(d.hours, "H"), (d.minutes, "M"), (seconds, "S")]
  if days.isEmpty && time.isEmpty then "PT0S"
  else "P" ++ days ++ (if time.isEmpty then "" else "T" ++ time)

/-- What may stand between the segments of a literal. -/
def isSeparator (c : Char) : Bool := isBlank c || c = ','

def isNumberPart (c : Char) : Bool := c.isDigit || c = '.'

/-- Reads one segment of a literal: a number with an optional sign, and a unit. -/
def readSegment? (cs : List Char) : Option (Duration × List Char) := do
  let (negative, unsigned) := match cs with
    | '-' :: rest => (true, rest)
    | '+' :: rest => (false, rest)
    | _ => (false, cs)
  let number ← Number.readUnsigned? negative (unsigned.takeWhile isNumberPart)
  let rest := trimStart (unsigned.dropWhile isNumberPart)
  let unit ← DurationUnit.ofSpelling? (String.ofList (rest.takeWhile isAlphabetic))
  return (single unit number, rest.dropWhile isAlphabetic)

/-- Reads the segments of a literal up to its end and adds them up. Every segment takes at least one
character. -/
def readSegments? (total : Duration) (cs : List Char) : Option Duration :=
  if cs.isEmpty then some total
  else
    match readSegment? cs with
    | none => none
    | some (span, rest) =>
      if _shorter : rest.length < cs.length then
        readSegments? (total.plus span) (rest.dropWhile isSeparator)
      else none
termination_by cs.length
decreasing_by
  have := (List.dropWhile_sublist isSeparator (l := rest)).length_le
  omega

/-- Reads a literal of one or more segments, such as `1 day, 3 hours` or `5h`. -/
def ofLiteral? (text : String) : Option Duration :=
  let cs := (trim text.toList).dropWhile isSeparator
  if cs.isEmpty then none else readSegments? zero cs

end Duration

end DocQuery
