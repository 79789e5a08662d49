/-!
What can be wrong with a pattern, and how it is reported: the pattern with the place marked below it,
and the reason.
-/

namespace DocQuery.Pattern

inductive FaultKind where
  | classEscapeInvalid | classRangeInvalid | classRangeLiteral | classUnclosed
  | decimalInvalid
  | hexEmpty | hexInvalid | hexDigitInvalid
  | escapeUnfinished | escapeUnknown
  | flagDangling | flagRepeated | flagNegationRepeated | flagsUnfinished | flagUnknown
  | nameRepeated | nameEmpty | nameInvalid | nameUnfinished
  | groupUnclosed | groupUnopened
  | tooDeep
  | countInvalid | countEmpty | countUnclosed
  | nothingToRepeat
  | wordEdgeUnclosed | wordEdgeUnknown | wordEdgeUnfinished
  | propertyInvalid
  | backreference | lookAround
  | unicodeNotAllowed | invalidUtf8 | propertyNotFound | propertyValueNotFound
  deriving DecidableEq

def nestLimit : Nat := 250

def FaultKind.message : FaultKind → String
  | classEscapeInvalid => "invalid escape sequence found in character class"
  | classRangeInvalid => "invalid character class range, the start must be <= the end"
  | classRangeLiteral => "invalid range boundary, must be a literal"
  | classUnclosed => "unclosed character class"
  | decimalInvalid => "decimal literal invalid"
  | hexEmpty => "hexadecimal literal empty"
  | hexInvalid => "hexadecimal literal is not a Unicode scalar value"
  | hexDigitInvalid => "invalid hexadecimal digit"
  | escapeUnfinished => "incomplete escape sequence, reached end of pattern prematurely"
  | escapeUnknown => "unrecognized escape sequence"
  | flagDangling => "dangling flag negation operator"
  | flagRepeated => "duplicate flag"
  | flagNegationRepeated => "flag negation operator repeated"
  | flagsUnfinished => "expected flag but got end of regex"
  | flagUnknown => "unrecognized flag"
  | nameRepeated => "duplicate capture group name"
  | nameEmpty => "empty capture group name"
  | nameInvalid => "invalid capture group character"
  | nameUnfinished => "unclosed capture group name"
  | groupUnclosed => "unclosed group"
  | groupUnopened => "unopened group"
  | tooDeep =>
    "exceed the maximum number of nested parentheses/brackets (" ++ toString nestLimit ++ ")"
  | countInvalid => "invalid repetition count range, the start must be <= the end"
  | countEmpty => "repetition quantifier expects a valid decimal"
  | countUnclosed => "unclosed counted repetition"
  | nothingToRepeat => "repetition operator missing expression"
  | wordEdgeUnclosed =>
    "special word boundary assertion is either unclosed or contains an invalid character"
  | wordEdgeUnknown => "unrecognized special word boundary assertion, " ++
    "valid choices are: start, end, start-half or end-half"
  | wordEdgeUnfinished => "found either the beginning of a special word boundary or a " ++
    "bounded repetition on a \\b with an opening brace, but no closing brace"
  | propertyInvalid => "invalid Unicode character class"
  | backreference => "backreferences are not supported"
  | lookAround => "look-around, including look-ahead and look-behind, is not supported"
  | unicodeNotAllowed => "Unicode not allowed here"
  | invalidUtf8 => "pattern can match invalid UTF-8"
  | propertyNotFound => "Unicode property not found"
  | propertyValueNotFound => "Unicode property value not found"

/-- A stretch of a pattern. Both ends are given by the number of characters that are left there, which
is what a reader knows. -/
structure Stretch where
  start : Nat
  stop : Nat
  deriving DecidableEq

def Stretch.between (start stop : List Char) : Stretch := ⟨start.length, stop.length⟩

/-- A fault with its place, and with the place that it collides with if there is one. -/
structure Fault where
  kind : FaultKind
  place : Stretch
  other : Option Stretch := none

structure Mark where
  line : Nat
  column : Nat

/-- Where the rest of a pattern begins. -/
def Mark.of (before : List Char) : Mark :=
  ⟨before.count '\n' + 1, (before.reverse.takeWhile (· != '\n')).length + 1⟩

def Stretch.marks (pattern : List Char) (s : Stretch) : Mark × Mark :=
  (Mark.of (pattern.take (pattern.length - s.start)),
    Mark.of (pattern.take (pattern.length - s.stop)))

/-- The lines of a text: a final line end begins no further line, and a carriage return before a line
end belongs to it. -/
def linesOf (cs : List Char) : List (List Char) :=
  let parts := cs.splitOnP (· == '\n')
  let ended := parts.dropLast.map fun line =>
    if line.getLast? = some '\r' then line.dropLast else line
  match parts.getLast? with
  | some [] | none => ended
  | some line => ended ++ [line]

/-- Marks below a line the columns from `first` up to `last`, and at least one, as a function that
extends the marks made so far. -/
def markColumns (made : String) (ends : Mark × Mark) : String :=
  let blanks := ends.1.column - 1 - made.length
  let width := max 1 (ends.2.column - ends.1.column)
  made ++ String.ofList (List.replicate blanks ' ' ++ List.replicate width '^')

/-- The report of a fault in a pattern. Patterns of several lines have their lines numbered. -/
def Fault.report (pattern : String) (f : Fault) : String :=
  let cs := pattern.toList
  let lines := linesOf cs
  let count := lines.length + if cs.getLast? = some '\n' then 1 else 0
  let width := if count ≤ 1 then 0 else (toString count).length
  let label (number : Nat) : String :=
    if width = 0 then "    "
    else
      let digits := toString number
      String.ofList (List.replicate (width - digits.length) ' ') ++ digits ++ ": "
  let places := ((f.place :: f.other.toList).map (Stretch.marks cs)).mergeSort fun a b =>
    a.1.line < b.1.line || (a.1.line == b.1.line && a.1.column ≤ b.1.column)
  let oneLine := places.filter fun ends => ends.1.line == ends.2.line
  let severalLines := places.filter fun ends => ends.1.line != ends.2.line
  let shown := lines.zipIdx.map fun (line, index) =>
    let here := oneLine.filter fun ends => ends.1.line == index + 1
    let marks :=
      if here.isEmpty then ""
      else String.ofList (List.replicate (label 1).length ' ') ++ here.foldl markColumns "" ++ "\n"
    label (index + 1) ++ String.ofList line ++ "\n" ++ marks
  let divider := String.ofList (List.replicate 79 '~') ++ "\n"
  let divided := cs.contains '\n'
  let notes := severalLines.map fun (first, last) =>
    "on line " ++ toString first.line ++ " (column " ++ toString first.column ++ ") through line " ++
      toString last.line ++ " (column " ++ toString (last.column - 1) ++ ")"
  "regex parse error:\n" ++ (if divided then divider else "") ++ String.join shown ++
    (if divided then divider else "") ++
    (if divided && !notes.isEmpty then "\n".intercalate notes ++ "\n" else "") ++
    "error: " ++ f.kind.message

end DocQuery.Pattern
