/-!
Sets of characters and maps between characters as sorted tables of runs. A table is written as a text
of hexadecimal code points, so that it stays readable, and is searched by halving.
-/

namespace DocQuery.Text

/-- The value of a hexadecimal digit; zero for any other character. -/
def hexDigitValue (c : Char) : Nat :=
  if c.isDigit then c.toNat - '0'.toNat
  else if 'a' ≤ c ∧ c ≤ 'f' then c.toNat - 'a'.toNat + 10
  else if 'A' ≤ c ∧ c ≤ 'F' then c.toNat - 'A'.toNat + 10
  else 0

def hexValue (digits : List Char) : Nat :=
  digits.foldl (fun value c => value * 16 + hexDigitValue c) 0

/-- Cuts a text at every occurrence of a separator. -/
def cutAt (separator : Char) (cs : List Char) : List (List Char) :=
  cs.splitOnP (· == separator)

/-- The words of a text, which are separated by spaces and line ends. -/
def words (text : String) : List (List Char) :=
  (text.toList.splitOnP fun c => c == ' ' || c == '\n').filter (!·.isEmpty)

/-- A run of consecutive code points. -/
structure CodeRange where
  first : Nat
  last : Nat
  deriving Inhabited

/-- A set of characters, as runs in ascending order. -/
abbrev RangeTable := Array CodeRange

/-- Reads a run written `41-5A`, or `AA` for a single code point. -/
def CodeRange.ofText (cs : List Char) : CodeRange :=
  match cutAt '-' cs with
  | [first, last] => ⟨hexValue first, hexValue last⟩
  | [only] => ⟨hexValue only, hexValue only⟩
  | _ => ⟨1, 0⟩

/-- Reads runs separated by blanks. -/
def RangeTable.ofText (text : String) : RangeTable :=
  ((words text).map CodeRange.ofText).toArray

/-- Halves the interval `[low, high)` of the table until the entry whose run could hold the code
point is found; the fuel is the number of entries, which is never used up. -/
def searchRuns {α : Type} (runs : Array α) (range : α → CodeRange) (code : Nat) :
    Nat → Nat → Nat → Option α
  | 0, _, _ => none
  | fuel + 1, low, high =>
    if low < high then
      let middle := (low + high) / 2
      match runs[middle]? with
      | none => none
      | some run =>
        if code < (range run).first then searchRuns runs range code fuel low middle
        else if (range run).last < code then searchRuns runs range code fuel (middle + 1) high
        else some run
    else none

def RangeTable.contains (table : RangeTable) (c : Char) : Bool :=
  (searchRuns table id c.toNat (table.size + 1) 0 table.size).isSome

/-- A run of characters that are mapped in step: every `step`-th code point from the first to the
last goes to the target moved by the same distance. -/
structure CaseRun where
  range : CodeRange
  step : Nat
  target : Nat
  deriving Inhabited

/-- A map from characters to characters, as runs in ascending order. -/
abbrev CaseTable := Array CaseRun

/-- Reads a run written `41-5A/1:61`. -/
def CaseRun.ofText (cs : List Char) : CaseRun :=
  match cutAt ':' cs with
  | [source, target] =>
    match cutAt '/' source with
    | [range, step] => ⟨CodeRange.ofText range, hexValue step, hexValue target⟩
    | _ => ⟨⟨1, 0⟩, 1, 0⟩
  | _ => ⟨⟨1, 0⟩, 1, 0⟩

def CaseTable.ofText (text : String) : CaseTable :=
  ((words text).map CaseRun.ofText).toArray

/-- The image of a character; a character outside all runs is its own image. -/
def CaseTable.apply (table : CaseTable) (c : Char) : Char :=
  match searchRuns table CaseRun.range c.toNat (table.size + 1) 0 table.size with
  | some run =>
    let distance := c.toNat - run.range.first
    if distance % run.step = 0 then Char.ofNat (run.target + distance) else c
  | none => c

/-- Reads entries `DF:53,53`: characters whose image has more than one character. -/
def longImagesOfText (text : String) : List (Char × List Char) :=
  (words text).map fun entry =>
    match cutAt ':' entry with
    | [source, target] =>
      (Char.ofNat (hexValue source), (cutAt ',' target).map fun cs => Char.ofNat (hexValue cs))
    | _ => (Char.ofNat 0, [])

end DocQuery.Text
