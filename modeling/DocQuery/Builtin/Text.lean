import DocQuery.Builtin.Basic
import DocQuery.Text.Slice

/-!
Functions on texts, with patterns and without.
-/

namespace DocQuery.Builtin

/-- The text of a pattern with the text of another one in a group between the ends of texts. -/
def anchored (pattern : String) : String := "^(?:" ++ pattern ++ ")$"

/-- Whether a pattern matches the whole of a text. Anything but a text is not matched. -/
def patternMatches : Implementation
  | scope, [.string pattern, .string text] => do
    return .boolean ((← compilePattern scope (anchored pattern)).occursIn text)
  | _, [.string _, _] => .ok (.boolean false)
  | _, args => mismatch "regexmatch" args

def patternOccurs : Implementation
  | scope, [.string pattern, .string text] => do
    return .boolean ((← compilePattern scope pattern).occursIn text)
  | _, [.string _, _] => .ok (.boolean false)
  | _, args => mismatch "regextest" args

def patternReplace : Implementation
  | scope, [.string text, .string pattern, .string replacement] => do
    return .string ((← compilePattern scope pattern).replaceAll text replacement)
  | _, args => mismatch "regexreplace" args

/-- Replaces every occurrence of a text in another. An empty text occurs before every character and at
the end. -/
def replace : Implementation
  | _, [.string text, .string old, .string new] =>
    .ok (.string (String.ofList (Text.replace old.toList new.toList text.toList)))
  | _, args => mismatch "replace" args

def lower : Implementation
  | _, [.string s] => .ok (.string (Text.lower s))
  | _, args => mismatch "lower" args

def upper : Implementation
  | _, [.string s] => .ok (.string (Text.upper s))
  | _, args => mismatch "upper" args

def splitBy (scope : CallScope) (text pattern : String) : Outcome (List Value) := do
  return ((← compilePattern scope pattern).split text).map Value.string

/-- The parts of a text between the matches of a pattern; the first ones only if a number is given. -/
def split : Implementation
  | scope, [.string text, .string pattern] => Value.array <$> splitBy scope text pattern
  | scope, [.string text, .string pattern, .number limit] => do
    return .array ((← splitBy scope text pattern).take limit.toCount)
  | _, args => mismatch "split" args

def startsWith : Implementation
  | _, [.string s, .string start] => .ok (.boolean (start.toList.isPrefixOf s.toList))
  | _, args => mismatch "startswith" args

def endsWith : Implementation
  | _, [.string s, .string ending] => .ok (.boolean (ending.toList.isSuffixOf s.toList))
  | _, args => mismatch "endswith" args

/-- The greatest width that texts are padded to: a character takes four bytes at most. -/
def padLimit : Number := Number.ofNat (textLimit / 4)

/-- So many characters, made of copies of a text. -/
def fillWith (padding : List Char) (count : Nat) : List Char :=
  (List.replicate (count / padding.length + 1) padding).flatten.take count

def fillFor (text : String) (width : Number) (padding : String) : Outcome (List Char) :=
  if width.isFinite && padLimit.less width then .error .textTooLong
  else .ok (fillWith padding.toList
    (if padding.isEmpty then 0 else width.toCount - text.length))

def padStart (text : String) (width : Number) (padding : String) : Outcome Value := do
  return .string (String.ofList (← fillFor text width padding) ++ text)

def padEnd (text : String) (width : Number) (padding : String) : Outcome Value := do
  return .string (text ++ String.ofList (← fillFor text width padding))

/-- A padding function; a text is padded with blanks unless something else is given. -/
def padBy (name : String) (pad : String → Number → String → Outcome Value) : Implementation
  | _, [.string text, .number width] => pad text width " "
  | _, [.string text, .number width, .string padding] => pad text width padding
  | _, args => mismatch name args

/-- The characters between two places, whichever comes first. -/
def sliceText (text : String) (start stop : Nat) : String :=
  let (low, high) := if stop < start then (stop, start) else (start, stop)
  String.ofList ((text.toList.take high).drop low)

def placeIn (text : String) (n : Number) : Nat := (n.clamp 0 text.length).toNat

/-- The part of a text between two places, or from one place on. -/
def substring : Implementation
  | _, [.string text, .number start] => .ok (.string (sliceText text (placeIn text start) text.length))
  | _, [.string text, .number start, .number stop] =>
    .ok (.string (sliceText text (placeIn text start) (placeIn text stop)))
  | _, args => mismatch "substring" args

/-- A text cut down to a length, ending in a mark if it was longer. -/
def truncateText (text : String) (length : Nat) (mark : String) : String :=
  if text.length ≤ length then text
  else String.ofList (text.toList.take (length - mark.length)) ++ mark

/-- A text cut down to a length; three points mark the cut unless something else is given. -/
def truncate : Implementation
  | _, [.string text, .number length] => .ok (.string (truncateText text length.toCount "..."))
  | _, [.string text, .number length, .string mark] =>
    .ok (.string (truncateText text length.toCount mark))
  | _, args => mismatch "truncate" args

def textFunctions : List Function := [
  define "regexmatch" |>.takes [string, any] patternMatches |>.vectorize 2 [1],
  define "regextest" |>.takes [string, any] patternOccurs |>.vectorize 2 [1],
  define "regexreplace"
    |>.takes [string, string, string] patternReplace |>.takes [null, any, any] missing
    |>.vectorize 3 [0],
  define "replace"
    |>.takes [string, string, string] replace |>.takes [null, any, any] missing
    |>.vectorize 3 [0],
  define "lower" |>.takes [string] lower |>.takes [null] missing |>.vectorize 1 [0],
  define "upper" |>.takes [string] upper |>.takes [null] missing |>.vectorize 1 [0],
  define "split"
    |>.takes [string, string] split |>.takes [string, string, number] split
    |>.takes [null, any] missing |>.vectorize 2 [0] |>.vectorize 3 [0],
  define "startswith"
    |>.takes [string, string] startsWith |>.takes [null, any] missing |>.vectorize 2 [0],
  define "endswith"
    |>.takes [string, string] endsWith |>.takes [null, any] missing |>.vectorize 2 [0],
  define "padleft"
    |>.takes [string, number] (padBy "padleft" padStart)
    |>.takes [string, number, string] (padBy "padleft" padStart)
    |>.vectorize 2 [0] |>.vectorize 3 [0],
  define "padright"
    |>.takes [string, number] (padBy "padright" padEnd)
    |>.takes [string, number, string] (padBy "padright" padEnd)
    |>.vectorize 2 [0] |>.vectorize 3 [0],
  define "substring"
    |>.takes [string, number] substring |>.takes [string, number, number] substring
    |>.vectorize 2 [0] |>.vectorize 3 [0],
  define "truncate"
    |>.takes [string, number] truncate |>.takes [string, number, string] truncate
    |>.vectorize 2 [0] |>.vectorize 3 [0]]

end DocQuery.Builtin
