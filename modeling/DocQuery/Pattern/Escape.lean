import DocQuery.Pattern.Class
import DocQuery.Pattern.Node
import DocQuery.Text.Slice

/-!
Reading the escapes and counts of patterns. A reader takes the rest of the pattern and gives back what
follows, and a flag says whether blanks and comments are skipped.
-/

namespace DocQuery.Pattern

open DocQuery.Text

/-- A part of a pattern with what follows it. -/
abbrev WithRest (α : Type) := α × List Char

/-- Drops blanks and comments, which run from a hash sign to the end of the line. -/
def dropBlanks (inComment : Bool) : List Char → List Char
  | [] => []
  | c :: rest =>
    if inComment then dropBlanks (c != '\n') rest
    else if isBlank c then dropBlanks false rest
    else if c = '#' then dropBlanks true rest
    else c :: rest

/-- Drops blanks and comments where they are skipped. -/
def skip (loose : Bool) (cs : List Char) : List Char := if loose then dropBlanks false cs else cs

/-- Takes characters that satisfy a test, passing over blanks and comments where they are skipped. -/
def takeLoose (loose : Bool) (test : Char → Bool) (inComment : Bool) :
    List Char → List Char × List Char
  | [] => ([], [])
  | c :: rest =>
    if inComment then takeLoose loose test (c != '\n') rest
    else if loose && isBlank c then takeLoose loose test false rest
    else if loose && c = '#' then takeLoose loose test true rest
    else if test c then
      let (taken, rest) := takeLoose loose test false rest
      (c :: taken, rest)
    else ([], c :: rest)

/-- A fault at a single character. -/
def faultAt (kind : FaultKind) (cs : List Char) : Fault := ⟨kind, .between cs cs.tail, none⟩

def faultBetween (kind : FaultKind) (start stop : List Char) : Fault :=
  ⟨kind, .between start stop, none⟩

/-- Reads a count of a repetition. Whether its fault is reported depends on what follows. -/
def readCount (loose : Bool) (cs : List Char) : Except Fault Nat × List Char :=
  let cs := cs.dropWhile isBlank
  let (digits, after) := takeLoose loose Char.isDigit false cs
  let count :=
    if digits.isEmpty then .error (faultBetween .countEmpty cs after)
    else
      let value := digits.foldl (fun n c => n * 10 + (c.toNat - '0'.toNat)) 0
      if value < Nat.pow 2 32 then .ok value else .error (faultBetween .decimalInvalid cs after)
  (count, after.dropWhile isBlank)

/-- Takes a question mark, which makes a repetition lazy. -/
def takeLazy : List Char → Bool × List Char
  | '?' :: rest => (true, rest)
  | cs => (false, cs)

/-- Reads the bounds of a repetition, of which the first count was read. -/
def readBounds (loose : Bool) (start : List Char) (least : Except Fault Nat) :
    List Char → Except Fault (WithRest (Nat × Option Nat))
  | [] => throw (faultBetween .countUnclosed start [])
  | ',' :: rest =>
    match skip loose rest with
    | [] => throw (faultBetween .countUnclosed start [])
    | '}' :: rest => do return ((← least, none), '}' :: rest)
    | cs => do
      let least ← least
      let (most, cs) := readCount loose cs
      return ((least, some (← most)), cs)
  | cs => do
    let count ← least
    return ((count, some count), cs)

/-- Reads the brace behind the bounds of a repetition, with the mark for laziness behind it. -/
def closeCounts (loose : Bool) (start : List Char) (bounds : Nat × Option Nat) :
    List Char → Except Fault (WithRest ((Nat × Option Nat) × Bool))
  | '}' :: rest => do
    let (isLazy, rest) := takeLazy (skip loose rest)
    if bounds.2.any (· < bounds.1) then throw (faultBetween .countInvalid start rest)
    return ((bounds, isLazy), rest)
  | cs => throw (faultBetween .countUnclosed start cs)

/-- Reads counts in braces, `\x7b2\x7d`, `\x7b2,\x7d` or `\x7b2,5\x7d`, with the mark for laziness
behind them. -/
def readCounts (loose : Bool) (start : List Char) : Except Fault (WithRest ((Nat × Option Nat) × Bool)) := do
  let cs := skip loose start.tail
  if cs.isEmpty then throw (faultBetween .countUnclosed start cs)
  let (least, cs) := readCount loose cs
  let (bounds, cs) ← readBounds loose start least cs
  closeCounts loose start bounds cs

inductive Atom where
  | letter (l : Letter)
  | letterClass (c : LetterClass) (negated : Bool) (place : Stretch)
  | property (name : PropertyName) (negated : Bool) (place : Stretch)
  | textStart (place : Stretch)
  | textEnd (place : Stretch)
  | wordEdge (kind : WordEdge) (place : Stretch)

def Atom.place : Atom → Stretch
  | letter l => l.place
  | letterClass _ _ place => place
  | property _ _ place => place
  | textStart place => place
  | textEnd place => place
  | wordEdge _ place => place

def isHexDigit (c : Char) : Bool := c.isDigit || ('a' ≤ c && c ≤ 'f') || ('A' ≤ c && c ≤ 'F')

def charOfHex? (digits : List Char) : Option Char :=
  let code := hexValue digits
  if code < 0xD800 || (0xE000 ≤ code && code ≤ 0x10FFFF) then some (Char.ofNat code) else none

/-- Reads exactly so many hexadecimal digits. -/
def readHexDigits (loose : Bool) : Nat → List Char → Except Fault (WithRest (List Char))
  | 0, cs => return ([], cs)
  | count + 1, cs =>
    match cs with
    | [] => throw (faultAt .escapeUnfinished cs)
    | c :: rest => do
      if !isHexDigit c then throw (faultAt .hexDigitInvalid cs)
      let (digits, rest) ← readHexDigits loose count (skip loose rest)
      return (c :: digits, rest)

def closeHex (loose : Bool) (start inside digits : List Char) : List Char → Except Fault (WithRest Letter)
  | [] => throw (faultBetween .escapeUnfinished ('{' :: inside) [])
  | '}' :: rest =>
    let after := skip loose rest
    if digits.isEmpty then throw (faultBetween .hexEmpty ('{' :: inside) after)
    else match charOfHex? digits with
      | none => throw (faultBetween .hexInvalid inside ('}' :: rest))
      | some char => return ({ char, place := .between start after }, after)
  | rest => throw (faultAt .hexDigitInvalid rest)

/-- Reads a code: as many digits as asked for, or any number of them in braces. -/
def readHexCode (loose : Bool) (count : Nat) (start : List Char) : List Char → Except Fault (WithRest Letter)
  | [] => throw (faultAt .escapeUnfinished [])
  | '{' :: inside =>
    let (digits, rest) := takeLoose loose isHexDigit false inside
    closeHex loose start inside digits rest
  | cs => do
    let (digits, rest) ← readHexDigits loose count cs
    match charOfHex? digits with
    | none => throw (faultBetween .hexInvalid cs rest)
    | some char => return ({ char, byByte := count == 2, place := .between start rest }, rest)

/-- Reads the code of a character behind `\x`, `\u` or `\U`, whose letter asks for so many digits. -/
def readHex (loose : Bool) (count : Nat) (start cs : List Char) : Except Fault (WithRest Letter) :=
  readHexCode loose count start (skip loose cs)

/-- Splits at the first `!=`. -/
def splitAtUnequal? : List Char → Option (List Char × List Char)
  | [] => none
  | '!' :: '=' :: rest => some ([], rest)
  | c :: rest => (splitAtUnequal? rest).map fun (before, after) => (c :: before, after)

/-- The property that a text in braces names, and whether it is negated there. -/
def PropertyName.ofText (cs : List Char) : PropertyName × Bool :=
  let valued (parts : List Char × List Char) : PropertyName :=
    .valued (String.ofList parts.1) (String.ofList parts.2)
  match splitAtUnequal? cs with
  | some parts => (valued parts, true)
  | none =>
    match (splitFirst? ':' cs).orElse fun _ => splitFirst? '=' cs with
    | some parts => (valued parts, false)
    | none => (.plain (String.ofList cs), false)

/-- Reads the name of a property: a letter, or a text in braces. -/
def readPropertyName (loose negated : Bool) (start : List Char) : List Char → Except Fault (WithRest Atom)
  | [] => throw (faultAt .escapeUnfinished [])
  | '{' :: inside =>
    match takeLoose loose (· != '}') false inside with
    | (_, []) => throw (faultAt .escapeUnfinished [])
    | (name, _ :: rest) =>
      let (name, flipped) := PropertyName.ofText name
      return (.property name (negated != flipped) (.between start rest), rest)
  | '\\' :: rest => throw (faultAt .propertyInvalid ('\\' :: rest))
  | c :: rest =>
    let rest := skip loose rest
    return (.property (.plain c.toString) negated (.between start rest), rest)

def readProperty (loose negated : Bool) (start cs : List Char) : Except Fault (WithRest Atom) :=
  readPropertyName loose negated start (skip loose cs)

/-- The characters that have a meaning of their own in patterns. -/
def isMeta (c : Char) : Bool := "\\.+*?()|[]\x7b\x7d^$#&-~".toList.contains c

/-- Whether a backslash before a character that needs none is allowed. -/
def isEscapable (c : Char) : Bool :=
  isMeta c || (c.toNat < 128 && !c.isAlphanum && c != '<' && c != '>')

/-- The control characters that have letters. -/
def controlOf? : Char → Option Char
  | 'a' => some '\x07'
  | 'f' => some '\x0c'
  | 't' => some '\t'
  | 'n' => some '\n'
  | 'r' => some '\r'
  | 'v' => some '\x0b'
  | _ => none

def wordEdgeOf? : String → Option WordEdge
  | "start" => some .start
  | "end" => some .stop
  | "start-half" => some .halfStart
  | "end-half" => some .halfStop
  | _ => none

def isEdgeChar (c : Char) : Bool := c.isAlpha || c = '-'

/-- Reads the brace behind the name of a word edge. -/
def closeWordEdge (start brace inside name : List Char) : List Char → Except Fault (WithRest Atom)
  | '}' :: after =>
    match wordEdgeOf? (String.ofList name) with
    | some kind => return (.wordEdge kind (.between start after), after)
    | none => throw (faultBetween .wordEdgeUnknown inside ('}' :: after))
  | rest => throw (faultBetween .wordEdgeUnclosed brace rest)

/-- Reads a word edge, `\b` or `\b\x7bstart\x7d`. A brace that does not begin a name is left to be a
count. -/
def readWordEdge (loose : Bool) (start : List Char) : List Char → Except Fault (WithRest Atom)
  | '{' :: rest =>
    match skip loose rest with
    | [] => throw (faultBetween .wordEdgeUnfinished start [])
    | c :: inside =>
      if isEdgeChar c then
        let (name, after) := takeLoose loose isEdgeChar false (c :: inside)
        closeWordEdge start ('{' :: rest) (c :: inside) name after
      else return (.wordEdge .edge (.between start ('{' :: rest)), '{' :: rest)
  | cs => return (.wordEdge .edge (.between start cs), cs)

def readEscape (loose : Bool) (start : List Char) : Except Fault (WithRest Atom) := do
  match start.tail with
  | [] => throw (faultBetween .escapeUnfinished start [])
  | c :: rest =>
    let place := Stretch.between start rest
    let letter (char : Char) : Except Fault (WithRest Atom) := return (.letter { char, place }, rest)
    let hex (count : Nat) : Except Fault (WithRest Atom) := do
      let (l, rest) ← readHex loose count start rest
      return (.letter l, rest)
    let cls (kind : LetterClass) (negated : Bool) : Except Fault (WithRest Atom) :=
      return (.letterClass kind negated place, rest)
    match c with
    | 'x' => hex 2
    | 'u' => hex 4
    | 'U' => hex 8
    | 'p' => readProperty loose false start rest
    | 'P' => readProperty loose true start rest
    | 'd' => cls .digit false
    | 's' => cls .space false
    | 'w' => cls .word false
    | 'D' => cls .digit true
    | 'S' => cls .space true
    | 'W' => cls .word true
    | 'A' => return (.textStart place, rest)
    | 'z' => return (.textEnd place, rest)
    | 'b' => readWordEdge loose start rest
    | 'B' => return (.wordEdge .notEdge place, rest)
    | '<' => return (.wordEdge .start place, rest)
    | '>' => return (.wordEdge .stop place, rest)
    | c =>
      if c.isDigit then throw (faultBetween .backreference start rest)
      else if isEscapable c then letter c
      else match controlOf? c with
        | some char => letter char
        | none => throw (faultBetween .escapeUnknown start rest)

end DocQuery.Pattern
