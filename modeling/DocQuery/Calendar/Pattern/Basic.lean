import DocQuery.Text.Class

/-!
Date patterns: texts in which a percent sign and a letter stand for a part of a date. A pattern is
read once into a list of items; showing a date and reading one walk over the items.
-/

namespace DocQuery.Calendar

/-- How a numeric part is filled up to its width. -/
inductive Padding where
  | bare
  | zeros
  | spaces
  deriving DecidableEq

/-- The parts of a date that are written as numbers. -/
inductive NumericPart where
  | year | century | yearOfCentury
  | isoYear | isoYearOfCentury | isoWeek
  | quarter | month | dayOfMonth | dayOfYear
  | weekFromSunday | weekFromMonday | weekdayFromSunday | weekdayFromMonday
  | hour | hourOfHalf | minute | second | nanos | timestamp
  deriving DecidableEq

inductive OffsetForm where
  | plain
  | colon
  | doubleColon
  | tripleColon
  /-- Only for reading: `Z` is accepted and the minutes may be missing. -/
  | lenient
  deriving DecidableEq

/-- The parts of a date that are written in another way. -/
inductive NamedPart where
  | shortMonth | longMonth | shortWeekday | longWeekday
  | lowerHalf | upperHalf
  /-- A point and as many digits as needed, or nothing. -/
  | fraction
  /-- A point and a fixed count of digits. -/
  | pointedFraction (digits : Nat)
  /-- A fixed count of digits without a point. -/
  | bareFraction (digits : Nat)
  | zoneName
  | offset (form : OffsetForm)
  /-- The whole exchange form. -/
  | exchange
  deriving DecidableEq

inductive PatternItem where
  | literal (cs : List Char)
  | blank (cs : List Char)
  | numeric (part : NumericPart) (padding : Padding)
  | named (part : NamedPart)
  deriving DecidableEq

namespace PatternItem

private def zeros (part : NumericPart) : PatternItem := .numeric part .zeros
private def spaces (part : NumericPart) : PatternItem := .numeric part .spaces
private def bare (part : NumericPart) : PatternItem := .numeric part .bare
private def mark (c : Char) : PatternItem := .literal [c]
private def gap : PatternItem := .blank [' ']

/-- The items of a letter that stands for a single part, or for several parts at once. -/
def ofLetter? : Char → Option (List PatternItem)
  | 'A' => some [.named .longWeekday]
  | 'B' => some [.named .longMonth]
  | 'C' => some [zeros .century]
  | 'D' => some [zeros .month, mark '/', zeros .dayOfMonth, mark '/', zeros .yearOfCentury]
  | 'F' => some [zeros .year, mark '-', zeros .month, mark '-', zeros .dayOfMonth]
  | 'G' => some [zeros .isoYear]
  | 'H' => some [zeros .hour]
  | 'I' => some [zeros .hourOfHalf]
  | 'M' => some [zeros .minute]
  | 'P' => some [.named .lowerHalf]
  | 'R' => some [zeros .hour, mark ':', zeros .minute]
  | 'S' => some [zeros .second]
  | 'T' => some [zeros .hour, mark ':', zeros .minute, mark ':', zeros .second]
  | 'U' => some [zeros .weekFromSunday]
  | 'V' => some [zeros .isoWeek]
  | 'W' => some [zeros .weekFromMonday]
  | 'X' => some [zeros .hour, mark ':', zeros .minute, mark ':', zeros .second]
  | 'Y' => some [zeros .year]
  | 'Z' => some [.named .zoneName]
  | 'a' => some [.named .shortWeekday]
  | 'b' => some [.named .shortMonth]
  | 'c' => some [.named .shortWeekday, gap, .named .shortMonth, gap, spaces .dayOfMonth, gap,
      zeros .hour, mark ':', zeros .minute, mark ':', zeros .second, gap, zeros .year]
  | 'd' => some [zeros .dayOfMonth]
  | 'e' => some [spaces .dayOfMonth]
  | 'f' => some [zeros .nanos]
  | 'g' => some [zeros .isoYearOfCentury]
  | 'h' => some [.named .shortMonth]
  | 'j' => some [zeros .dayOfYear]
  | 'k' => some [spaces .hour]
  | 'l' => some [spaces .hourOfHalf]
  | 'm' => some [zeros .month]
  | 'n' => some [.blank ['\n']]
  | 'p' => some [.named .upperHalf]
  | 'q' => some [bare .quarter]
  | 'r' => some [zeros .hourOfHalf, mark ':', zeros .minute, mark ':', zeros .second, gap,
      .named .upperHalf]
  | 's' => some [bare .timestamp]
  | 't' => some [.blank ['\t']]
  | 'u' => some [bare .weekdayFromMonday]
  | 'v' => some [spaces .dayOfMonth, mark '-', .named .shortMonth, mark '-', zeros .year]
  | 'w' => some [bare .weekdayFromSunday]
  | 'x' => some [zeros .month, mark '/', zeros .dayOfMonth, mark '/', zeros .yearOfCentury]
  | 'y' => some [zeros .yearOfCentury]
  | 'z' => some [.named (.offset .plain)]
  | '+' => some [.named .exchange]
  | '%' => some [mark '%']
  | _ => none

private def fractionDigits? : Char → Option Nat
  | '3' => some 3
  | '6' => some 6
  | '9' => some 9
  | _ => none

/-- Reads what follows a percent sign: the items and the number of characters they take. -/
def ofDirective? : List Char → Option (List PatternItem × Nat)
  | ':' :: ':' :: ':' :: 'z' :: _ => some ([.named (.offset .tripleColon)], 4)
  | ':' :: ':' :: 'z' :: _ => some ([.named (.offset .doubleColon)], 3)
  | ':' :: 'z' :: _ => some ([.named (.offset .colon)], 2)
  | '.' :: 'f' :: _ => some ([.named .fraction], 2)
  | '.' :: width :: 'f' :: _ =>
    (fractionDigits? width).map fun digits => ([.named (.pointedFraction digits)], 3)
  | '#' :: 'z' :: _ => some ([.named (.offset .lenient)], 2)
  | c :: 'f' :: _ =>
    match fractionDigits? c with
    | some digits => some ([.named (.bareFraction digits)], 2)
    | none => repadded? c 'f'
  | c :: d :: _ => repadded? c d
  | [c] => (ofLetter? c).map fun items => (items, 1)
  | [] => none
where
  /-- A padding mark changes the padding of a letter that stands for one number; any other first
  character is a letter by itself. -/
  repadded? (c d : Char) : Option (List PatternItem × Nat) :=
    let padding? : Option Padding :=
      match c with
      | '-' => some .bare
      | '0' => some .zeros
      | '_' => some .spaces
      | _ => none
    match padding? with
    | none => (ofLetter? c).map fun items => (items, 1)
    | some padding =>
      match ofLetter? d with
      | some [.numeric part _] => some ([.numeric part padding], 2)
      | _ => none

/-- Reads a pattern; `skip` characters were already taken by the item before. There is none if a
percent sign is followed by no known directive. -/
def readFrom? : Nat → List Char → Option (List PatternItem)
  | _, [] => some []
  | skip + 1, _ :: cs => readFrom? skip cs
  | 0, '%' :: cs => do
    let (items, length) ← ofDirective? cs
    return items ++ (← readFrom? length cs)
  | 0, c :: cs => do
    let item := if Text.isBlank c then PatternItem.blank [c] else .literal [c]
    return item :: (← readFrom? 0 cs)

def ofText? (text : String) : Option (List PatternItem) := readFrom? 0 text.toList

end PatternItem

def monthNames : List String :=
  ["January", "February", "March", "April", "May", "June", "July", "August", "September", "October",
    "November", "December"]

def weekdayNames : List String :=
  ["Monday", "Tuesday", "Wednesday", "Thursday", "Friday", "Saturday", "Sunday"]

def shortName (name : String) : String := String.ofList (name.toList.take 3)

end DocQuery.Calendar
