import DocQuery.Pattern.CharSet
import DocQuery.Pattern.Fault

/-!
Character classes as they are written in patterns, and the sets that they stand for under the flags in
force.
-/

namespace DocQuery.Pattern

open DocQuery.Text

structure Flags where
  /-- `i`: letter case is ignored. -/
  ignoreCase : Bool := false
  /-- `m`: `^` and `$` match at lines. -/
  multiLine : Bool := false
  /-- `s`: `.` matches line ends too. -/
  dotAll : Bool := false
  /-- `U`: repetitions are lazy unless marked greedy. -/
  swapGreed : Bool := false
  /-- `u`: classes are those of Unicode. -/
  unicode : Bool := true
  /-- `R`: a carriage return ends a line too. -/
  crlf : Bool := false
  /-- `x`: blanks and comments are skipped. -/
  ignoreBlank : Bool := false
  deriving DecidableEq

inductive LetterClass where
  | digit | space | word
  deriving DecidableEq

def LetterClass.set (unicode : Bool) : LetterClass → CharSet
  | digit => if unicode then CharSet.digit else CharSet.asciiDigit
  | space => if unicode then CharSet.space else CharSet.asciiSpace
  | word => if unicode then CharSet.word else CharSet.asciiWord

inductive PropertyName where
  | plain (name : String)
  | valued (name value : String)
  deriving DecidableEq

inductive ClassOp where
  | inter | diff | symmDiff
  deriving DecidableEq

structure Letter where
  char : Char
  /-- Whether it is written by a code of two hexadecimal digits, which names a byte when the pattern
  is not in Unicode mode. -/
  byByte : Bool := false
  place : Stretch

inductive ClassItem where
  | letter (l : Letter)
  | range (first last : Letter)
  /-- A named set such as `[:alpha:]`. -/
  | named (set : CharSet) (negated : Bool) (place : Stretch)
  | letterClass (c : LetterClass) (negated : Bool) (place : Stretch)
  | property (name : PropertyName) (negated : Bool) (place : Stretch)
  | bracket (negated : Bool) (place : Stretch) (inner : ClassItem)
  | union (items : List ClassItem)
  | op (kind : ClassOp) (left right : ClassItem)

namespace ClassItem

/-- The class of several items: one item stands for itself. -/
def ofItems : List ClassItem → ClassItem
  | [item] => item
  | items => union items

mutual

/-- How deeply a class is nested. -/
def height : ClassItem → Nat
  | bracket _ _ inner => inner.height + 1
  | union items => if items.isEmpty then 0 else heights items + 1
  | op _ left right => max left.height right.height + 1
  | _ => 0

def heights : List ClassItem → Nat
  | [] => 0
  | item :: rest => max item.height (heights rest)

end

end ClassItem

namespace CharSet

/-- The set with the other case of its letters `a` to `z` added. -/
def foldAsciiCase (a : CharSet) : CharSet :=
  let lowered := (inter a [⟨65, 90⟩]).map fun r => ⟨r.first + 32, r.last + 32⟩
  let raised := (inter a [⟨97, 122⟩]).map fun r => ⟨r.first - 32, r.last - 32⟩
  ofRuns (a ++ lowered ++ raised)

def underFlags (flags : Flags) (a : CharSet) : CharSet :=
  if flags.ignoreCase then if flags.unicode then foldCase a else foldAsciiCase a else a

def isAscii (a : CharSet) : Bool := a.all fun r => r.last < 128

/-- A set as it is used: with case ignored or not, negated or not. Outside Unicode mode sets are sets
of bytes, so that a negated set would match parts of characters. -/
def finish (flags : Flags) (negated : Bool) (place : Stretch) (a : CharSet) :
    Except Fault CharSet :=
  let a := a.underFlags flags
  if flags.unicode then .ok (if negated then a.complement else a)
  else if negated || !a.isAscii then .error ⟨.invalidUtf8, place, none⟩
  else .ok a

def combine : ClassOp → CharSet → CharSet → CharSet
  | .inter, a, b => inter a b
  | .diff, a, b => diff a b
  | .symmDiff, a, b => symmDiff a b

end CharSet

def PropertyName.set (flags : Flags) (place : Stretch) : PropertyName → Except Fault CharSet
  | name => do
    if !flags.unicode then throw ⟨.unicodeNotAllowed, place, none⟩
    match name with
    | plain name => (CharSet.ofName? name).elim (throw ⟨.propertyNotFound, place, none⟩) pure
    | valued name value =>
      match CharSet.ofNamedValue? name value with
      | some set => pure set
      | none =>
        let known := ["gc", "generalcategory", "sc", "script", "scx", "scriptextensions"]
        throw ⟨if known.contains (CharSet.plainName name) then .propertyValueNotFound
          else .propertyNotFound, place, none⟩

/-- The code point of a letter outside brackets. -/
def Letter.check (flags : Flags) (l : Letter) : Except Fault Char :=
  if !flags.unicode && l.byByte && 128 ≤ l.char.toNat then .error ⟨.invalidUtf8, l.place, none⟩
  else .ok l.char

/-- The code point of a letter in brackets, where outside Unicode mode only bytes may stand. -/
def Letter.checkInClass (flags : Flags) (l : Letter) : Except Fault Nat := do
  let c ← l.check flags
  if !flags.unicode && 128 ≤ c.toNat then throw ⟨.unicodeNotAllowed, l.place, none⟩
  return c.toNat

namespace ClassItem

mutual

def set (flags : Flags) : ClassItem → Except Fault CharSet
  | letter l => do
    let code ← l.checkInClass flags
    return [⟨code, code⟩]
  | range first last => return [⟨← first.checkInClass flags, ← last.checkInClass flags⟩]
  | named set negated place => set.finish flags negated place
  | letterClass c negated place => (c.set flags.unicode).finish { flags with ignoreCase := false }
      negated place
  | property name negated place => do (← name.set flags place).finish flags negated place
  | bracket negated place inner => do (← inner.set flags).finish flags negated place
  | union items => setOfItems flags items
  | op kind left right => do
    let left ← left.set flags
    let right ← right.set flags
    return .combine kind (left.underFlags flags) (right.underFlags flags)

def setOfItems (flags : Flags) : List ClassItem → Except Fault CharSet
  | [] => return []
  | item :: rest => do
    let first ← item.set flags
    return first.union (← setOfItems flags rest)

end

end ClassItem

end DocQuery.Pattern
