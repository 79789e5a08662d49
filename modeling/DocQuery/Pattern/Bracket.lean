import DocQuery.Pattern.Escape

/-!
Reading bracketed classes. Brackets that are still open stand in a list, the innermost first, so that
the reader goes through the pattern once.
-/

namespace DocQuery.Pattern

open DocQuery.Text

structure OpenClass where
  negated : Bool
  /-- The opening with what stands there as it is: a caret, dashes and a first closing bracket. -/
  place : Stretch
  /-- The items so far, newest first. -/
  items : List ClassItem := []
  /-- The operation that waits for its second operand. -/
  pending : Option (ClassOp × ClassItem) := none

namespace OpenClass

def push (c : OpenClass) (item : ClassItem) : OpenClass := { c with items := item :: c.items }

def content (c : OpenClass) : ClassItem :=
  let right := ClassItem.ofItems c.items.reverse
  match c.pending with
  | none => right
  | some (op, left) => .op op left right

/-- Makes what was read so far the first operand of an operation. -/
def pushOp (c : OpenClass) (op : ClassOp) : OpenClass :=
  { c with items := [], pending := some (op, c.content) }

/-- The class when its bracket closes before the given rest. -/
def close (c : OpenClass) (rest : List Char) : ClassItem :=
  .bracket c.negated ⟨c.place.start, rest.length⟩ c.content

def unclosed (c : OpenClass) : Fault := ⟨.classUnclosed, c.place, none⟩

end OpenClass

/-- Reads the dashes at the start of a class, which stand for themselves. -/
def readDashes (loose : Bool) (start : List Char) :
    Nat → List ClassItem → List Char → Except Fault (WithRest (List ClassItem))
  | fuel + 1, items, '-' :: rest => do
    let item : ClassItem := .letter { char := '-', place := .between ('-' :: rest) rest }
    match skip loose rest with
    | [] => throw (faultBetween .classUnclosed start start)
    | rest => readDashes loose start fuel (item :: items) rest
  | _, items, cs => return (items, cs)

/-- Reads a caret at the start of a class, which negates it. -/
def readNegation (loose : Bool) (start : List Char) : List Char → Except Fault (WithRest Bool)
  | '^' :: rest =>
    let rest := skip loose rest
    if rest.isEmpty then throw (faultBetween .classUnclosed start rest) else return (true, rest)
  | cs => return (false, cs)

/-- Reads a closing bracket that stands for itself, as it does where nothing is before it. -/
def readFirstBracket (loose : Bool) (start : List Char) :
    List ClassItem → List Char → Except Fault (WithRest (List ClassItem))
  | [], ']' :: rest =>
    let item : ClassItem := .letter { char := ']', place := .between (']' :: rest) rest }
    let rest := skip loose rest
    if rest.isEmpty then throw (faultBetween .classUnclosed start rest) else return ([item], rest)
  | items, cs => return (items, cs)

/-- Reads the opening of a class behind its bracket: a caret, dashes, and a first closing bracket. -/
def readOpening (loose : Bool) (start cs : List Char) : Except Fault (WithRest OpenClass) := do
  let (negated, cs) ← readNegation loose start cs
  let (items, cs) ← readDashes loose start cs.length [] cs
  let (items, cs) ← readFirstBracket loose start items cs
  return ({ negated, place := .between start cs, items }, cs)

def openClass (loose : Bool) (start : List Char) : Except Fault (WithRest OpenClass) :=
  let cs := skip loose start.tail
  if cs.isEmpty then throw (faultBetween .classUnclosed start cs) else readOpening loose start cs

/-- Reads the name of a named set and what closes it. -/
def closeNamedSet? (start : List Char) (negated : Bool) (cs : List Char) : Option (WithRest ClassItem) :=
  match splitFirst? ':' cs with
  | some (name, ']' :: rest) =>
    (CharSet.ofAsciiName? (String.ofList name)).map fun set => (.named set negated (.between start rest), rest)
  | _ => none

/-- Reads a named set such as `[:alpha:]` or `[:^alpha:]` behind its first bracket; anything else in its
place is read in another way. -/
def readNamedSet? (start : List Char) : List Char → Option (WithRest ClassItem)
  | ':' :: '^' :: rest => closeNamedSet? start true rest
  | ':' :: rest => closeNamedSet? start false rest
  | _ => none

def readClassAtom (loose : Bool) (cs : List Char) : Except Fault (WithRest Atom) :=
  match cs with
  | '\\' :: _ => readEscape loose cs
  | c :: rest => .ok (.letter { char := c, place := .between cs rest }, rest)
  | [] => .error (faultAt .classUnclosed cs)

/-- An atom as an item of a class: conditions on places are none. -/
def Atom.toItem : Atom → Except Fault ClassItem
  | letter l => .ok (.letter l)
  | letterClass c negated place => .ok (.letterClass c negated place)
  | property name negated place => .ok (.property name negated place)
  | a => .error ⟨.classEscapeInvalid, a.place, none⟩

def Atom.toLetter : Atom → Except Fault Letter
  | letter l => .ok l
  | a => .error ⟨.classRangeLiteral, a.place, none⟩

/-- The next character, past blanks where they are skipped. -/
def peek (loose : Bool) (cs : List Char) : Option Char :=
  if loose then
    match cs.dropWhile isBlank with
    | '#' :: rest => (rest.dropWhile isBlank).head?
    | cs => cs.head?
  else cs.head?

def Atom.rangeTo (first last : Atom) : Except Fault ClassItem := do
  let place : Stretch := ⟨first.place.start, last.place.stop⟩
  let first ← first.toLetter
  let last ← last.toLetter
  if last.char < first.char then throw ⟨.classRangeInvalid, place, none⟩
  return .range first last

/-- Reads the last character of a range behind its dash. -/
def readRangeEnd (loose : Bool) (current : OpenClass) (first : Atom) :
    List Char → Except Fault (WithRest ClassItem)
  | [] => throw current.unclosed
  | cs => do
    let (last, cs) ← readClassAtom loose cs
    return (← first.rangeTo last, cs)

/-- Reads what follows a character of a class. A dash before a closing bracket or before another dash
makes no range. -/
def readItemEnd (loose : Bool) (current : OpenClass) (first : Atom) :
    List Char → Except Fault (WithRest ClassItem)
  | [] => throw current.unclosed
  | '-' :: rest =>
    if peek loose rest = some ']' || peek loose rest = some '-' then do return (← first.toItem, '-' :: rest)
    else readRangeEnd loose current first (skip loose rest)
  | cs => do return (← first.toItem, cs)

/-- Reads an item of a class or a range of characters. -/
def readClassItem (loose : Bool) (current : OpenClass) (cs : List Char) :
    Except Fault (WithRest ClassItem) := do
  let (first, cs) ← readClassAtom loose cs
  readItemEnd loose current first (skip loose cs)

/-- The operation on classes that a doubled character stands for. -/
def ClassOp.ofChar? : Char → Option ClassOp
  | '&' => some inter
  | '-' => some diff
  | '~' => some symmDiff
  | _ => none

/-- Reads the sign of an operation on classes, if one stands there. -/
def readClassOp? : List Char → Option (WithRest ClassOp)
  | c :: d :: rest => if c = d then (ClassOp.ofChar? c).map fun op => (op, rest) else none
  | _ => none

/-- Reads the inside of a class up to the bracket that closes the outermost one. Every step takes a
character, so the length of the rest is fuel enough. -/
def readClassBody (loose : Bool) :
    Nat → OpenClass → List OpenClass → List Char → Except Fault (WithRest ClassItem)
  | 0, current, _, _ => throw current.unclosed
  | fuel + 1, current, outer, cs =>
    match skip loose cs with
    | [] => throw current.unclosed
    | ']' :: rest =>
      let item := current.close rest
      match outer with
      | [] => return (item, rest)
      | next :: outer => readClassBody loose fuel (next.push item) outer rest
    | '[' :: rest =>
      match readNamedSet? ('[' :: rest) rest with
      | some (item, rest) => readClassBody loose fuel (current.push item) outer rest
      | none => do
        let (inner, rest) ← openClass loose ('[' :: rest)
        readClassBody loose fuel inner (current :: outer) rest
    | cs =>
      match readClassOp? cs with
      | some (op, rest) => readClassBody loose fuel (current.pushOp op) outer rest
      | none => do
        let (item, rest) ← readClassItem loose current cs
        readClassBody loose fuel (current.push item) outer rest

/-- Reads a bracketed class. The rest begins at its bracket. -/
def readClass (loose : Bool) (start : List Char) : Except Fault (WithRest ClassItem) := do
  let (current, rest) ← openClass loose start
  readClassBody loose (rest.length + 1) current [] rest

end DocQuery.Pattern
