import DocQuery.Pattern.Bracket

/-!
Reading patterns. Groups that are still open stand in a list, the innermost first. Flags hold from
where they are set to the end of the innermost group around them. Faults of the written form win over
faults of what is written: the first of the latter is kept until the whole pattern has been read.
-/

namespace DocQuery.Pattern

open DocQuery.Text

structure Part where
  node : Node
  /-- How deeply the part is nested. -/
  height : Nat
  /-- Whether the part only sets flags. -/
  isDirective : Bool := false

def Part.ofSequence (parts : List Part) : Part :=
  match parts with
  | [] => ⟨.empty, 0, false⟩
  | [part] => { part with isDirective := false }
  | parts => ⟨.ofSequence (parts.map Part.node), (parts.map Part.height).foldl max 0 + 1, false⟩

def Part.ofAlternatives (parts : List Part) : Part :=
  match parts with
  | [part] => part
  | parts =>
    ⟨.ofAlternatives (parts.map Part.node), (parts.map Part.height).foldl max 0 + 1, false⟩

/-- What surrounds a group that is still open. -/
structure OpenGroup where
  /-- The parts before the group and the alternatives before those, newest first. -/
  parts : List Part
  alternatives : List Part
  flags : Flags
  /-- The number of the group if it captures. -/
  index : Option Nat
  /-- The opening parenthesis. -/
  place : Stretch

structure GroupName where
  name : String
  index : Nat
  place : Stretch

structure ReadState where
  flags : Flags := {}
  /-- The parts of the present alternative and the alternatives before it, newest first. -/
  parts : List Part := []
  alternatives : List Part := []
  outer : List OpenGroup := []
  /-- The number of capturing groups so far. -/
  groups : Nat := 0
  names : List GroupName := []
  /-- The first fault of what is written. -/
  late : Option Fault := none

namespace ReadState

def push (s : ReadState) (part : Part) : ReadState := { s with parts := part :: s.parts }

/-- Adds the node of a simple part, or keeps the fault in it for later. -/
def pushNode (s : ReadState) (height : Nat) : Except Fault Node → ReadState
  | .ok node => s.push ⟨node, height, false⟩
  | .error fault => { s.push ⟨.empty, height, false⟩ with late := s.late.orElse fun _ => some fault }

def body (s : ReadState) : Part :=
  .ofAlternatives (Part.ofSequence s.parts.reverse :: s.alternatives).reverse

end ReadState

def Flags.set? (flags : Flags) (letter : Char) (on : Bool) : Option Flags :=
  match letter with
  | 'i' => some { flags with ignoreCase := on }
  | 'm' => some { flags with multiLine := on }
  | 's' => some { flags with dotAll := on }
  | 'U' => some { flags with swapGreed := on }
  | 'u' => some { flags with unicode := on }
  | 'R' => some { flags with crlf := on }
  | 'x' => some { flags with ignoreBlank := on }
  | _ => none

/-- Reads one flag. The characters seen so far are given with their places: behind a dash flags are turned
off, and each stands at most once. -/
def readFlag (flags : Flags) (seen : List (Char × Stretch)) (c : Char) (place : Stretch) : Except Fault Flags :=
  let on := (seen.lookup '-').isNone
  match if c = '-' then some flags else flags.set? c on with
  | none => throw ⟨.flagUnknown, place, none⟩
  | some updated =>
    match seen.lookup c with
    | some earlier => throw ⟨if c = '-' then .flagNegationRepeated else .flagRepeated, place, some earlier⟩
    | none => return updated

/-- The end of flags, where a dash must have flags behind it. -/
def endFlags (flags : Flags) (seen : List (Char × Stretch)) (cs : List Char) :
    Except Fault (WithRest (Flags × Bool)) :=
  match seen with
  | ('-', place) :: _ => throw ⟨.flagDangling, place, none⟩
  | _ => return ((flags, seen.isEmpty), cs)

/-- Reads flags up to a colon or a closing parenthesis, and tells whether there are none. -/
def readFlags (flags : Flags) (seen : List (Char × Stretch)) :
    List Char → Except Fault (WithRest (Flags × Bool))
  | [] => throw (faultAt .flagsUnfinished [])
  | c :: rest =>
    if c = ':' || c = ')' then endFlags flags seen (c :: rest)
    else do
      let place := Stretch.between (c :: rest) rest
      let updated ← readFlag flags seen c place
      readFlags updated ((c, place) :: seen) rest

/-- Whether a character may stand in the name of a group; a name does not begin with a digit, a point
or a bracket. -/
def isNameChar (isFirst : Bool) (c : Char) : Bool :=
  c = '_' || if isFirst then isAlphabetic c else c = '.' || c = '[' || c = ']' || isAlphanumeric c

def dropName : List Char → List Char
  | c :: rest => if isNameChar true c then rest.dropWhile (isNameChar false) else c :: rest
  | [] => []

def closeName (start : List Char) : List Char → Except Fault (WithRest String)
  | [] => throw (faultAt .nameUnfinished [])
  | '>' :: rest =>
    if start.length = rest.length + 1 then throw (faultBetween .nameEmpty start start)
    else return (String.ofList (start.take (start.length - (rest.length + 1))), rest)
  | cs => throw (faultAt .nameInvalid cs)

def readName (cs : List Char) : Except Fault (WithRest String) := closeName cs (dropName cs)

/-- The starts of looks ahead and behind, which patterns do not have. -/
def lookAroundStarts : List (List Char) :=
  [['?', '='], ['?', '!'], ['?', '<', '='], ['?', '<', '!']]

def nameStarts : List (List Char) := [['?', 'P', '<'], ['?', '<']]

def ReadState.enter (s : ReadState) (flags : Flags) (index : Option Nat) (place : Stretch) : ReadState :=
  { s with
    flags, parts := [], alternatives := [],
    outer := ⟨s.parts, s.alternatives, s.flags, index, place⟩ :: s.outer }

def ReadState.enterNext (s : ReadState) (place : Stretch) : ReadState :=
  { s.enter s.flags (some (s.groups + 1)) place with groups := s.groups + 1 }

/-- Enters a group with the next number and a name that no group has yet. -/
def ReadState.enterNamed (s : ReadState) (place namePlace : Stretch) (name : String) : Except Fault ReadState :=
  match s.names.find? (·.name == name) with
  | some earlier => throw ⟨.nameRepeated, namePlace, some earlier.place⟩
  | none => return { s.enterNext place with names := ⟨name, s.groups + 1, namePlace⟩ :: s.names }

def readNamedGroup (s : ReadState) (place : Stretch) (nameStart : List Char) :
    Except Fault (WithRest ReadState) := do
  let (name, rest) ← readName nameStart
  return (← s.enterNamed place ⟨nameStart.length, rest.length + 1⟩ name, rest)

/-- Ends flags: before a parenthesis they hold for the rest of the present group, where there must be some,
and before a colon for the group that begins. -/
def applyFlags (s : ReadState) (place : Stretch) (start : List Char) (flags : Flags) (noFlags : Bool) :
    List Char → Except Fault (WithRest ReadState)
  | ')' :: rest =>
    if noFlags then throw (faultBetween .nothingToRepeat start start)
    else return ({ s.push ⟨.empty, 0, true⟩ with flags }, rest)
  | rest => return (s.enter flags none place, rest.tail)

/-- Reads the start of a group without a name. -/
def readPlainGroup (s : ReadState) (place : Stretch) : List Char → Except Fault (WithRest ReadState)
  | ['?'] => throw ⟨.groupUnclosed, place, none⟩
  | '?' :: rest => do
    let ((flags, noFlags), after) ← readFlags s.flags [] rest
    applyFlags s place ('?' :: rest) flags noFlags after
  | cs => return (s.enterNext place, cs)

/-- Reads what stands behind an opening parenthesis. -/
def readGroupStart (s : ReadState) (start cs : List Char) : Except Fault (WithRest ReadState) :=
  match lookAroundStarts.findSome? (dropStart? · cs) with
  | some rest => throw (faultBetween .lookAround start rest)
  | none =>
    let place := Stretch.between start start.tail
    match nameStarts.findSome? (dropStart? · cs) with
    | some nameStart => readNamedGroup s place nameStart
    | none => readPlainGroup s place cs

/-- Reads the start of a group, or flags for the rest of the present group. -/
def readGroup (s : ReadState) (start : List Char) : Except Fault (WithRest ReadState) :=
  readGroupStart s start (skip s.flags.ignoreBlank start.tail)

def closeGroup (s : ReadState) (start : List Char) : Except Fault (WithRest ReadState) :=
  match s.outer with
  | [] => .error (faultAt .groupUnopened start)
  | group :: outer =>
    let body := s.body
    let node := match group.index with
      | some index => .capture index body.node
      | none => body.node
    .ok ({ s with
      flags := group.flags
      parts := ⟨node, body.height + 1, false⟩ :: group.parts
      alternatives := group.alternatives
      outer }, start.tail)

/-- Repeats the last part. -/
def repeatLast (s : ReadState) (least : Nat) (most : Option Nat) (isLazy : Bool) : ReadState :=
  match s.parts with
  | [] => s
  | part :: parts =>
    let greedy := isLazy == s.flags.swapGreed
    { s with parts := ⟨.ofRepeat part.node least most greedy, part.height + 1, false⟩ :: parts }

/-- The counts that a sign of repetition stands for. -/
def signCounts : Char → Nat × Option Nat
  | '?' => (0, some 1)
  | '+' => (1, none)
  | _ => (0, none)

/-- Reads a sign of repetition. There must be a part before it that is not only flags. -/
def readRepetition (s : ReadState) (sign : Char) (rest : List Char) : Except Fault (WithRest ReadState) :=
  if s.parts.head?.all (·.isDirective) then
    throw (faultBetween .nothingToRepeat (sign :: rest) (sign :: rest))
  else if sign = '{' then do
    let (((least, most), isLazy), rest) ← readCounts s.flags.ignoreBlank (sign :: rest)
    return (repeatLast s least most isLazy, rest)
  else
    let (isLazy, rest) := takeLazy rest
    let (least, most) := signCounts sign
    return (repeatLast s least most isLazy, rest)

/-- The node of a point, which stands for any character but the ends of lines. -/
def pointNode (flags : Flags) (place : Stretch) : Except Fault Node :=
  if !flags.unicode then .error ⟨.invalidUtf8, place, none⟩
  else
    let ends : CharSet :=
      if flags.dotAll then []
      else if flags.crlf then [⟨10, 10⟩, ⟨13, 13⟩]
      else [⟨10, 10⟩]
    .ok (.set ends.complement)

def Atom.node (flags : Flags) : Atom → Except Fault Node
  | letter l => do return .set ((CharSet.single (← l.check flags)).underFlags flags)
  | letterClass c negated place => do
    return .set (← (ClassItem.letterClass c negated place).set flags)
  | property name negated place => do
    return .set (← (ClassItem.property name negated place).set flags)
  | textStart _ => .ok (.look .textStart)
  | textEnd _ => .ok (.look .textEnd)
  | wordEdge kind _ => .ok (.look (.word kind flags.unicode))

def readPart (s : ReadState) : List Char → Except Fault (WithRest ReadState)
  | [] => return (s, [])
  | c :: rest =>
    let place := Stretch.between (c :: rest) rest
    match c with
    | '(' => readGroup s ('(' :: rest)
    | ')' => closeGroup s (')' :: rest)
    | '|' =>
      return ({ s with parts := [], alternatives := .ofSequence s.parts.reverse :: s.alternatives }, rest)
    | '[' => do
      let (item, rest) ← readClass s.flags.ignoreBlank ('[' :: rest)
      return (s.pushNode item.height (Node.set <$> item.set s.flags), rest)
    | '?' | '*' | '+' | '{' => readRepetition s c rest
    | '\\' => do
      let (atom, rest) ← readEscape s.flags.ignoreBlank ('\\' :: rest)
      return (s.pushNode 0 (atom.node s.flags), rest)
    | '.' => return (s.pushNode 0 (pointNode s.flags place), rest)
    | '^' =>
      let look := if s.flags.multiLine then .lineStart s.flags.crlf else .textStart
      return (s.pushNode 0 (.ok (.look look)), rest)
    | '$' =>
      let look := if s.flags.multiLine then .lineEnd s.flags.crlf else .textEnd
      return (s.pushNode 0 (.ok (.look look)), rest)
    | c => return (s.pushNode 0 ((Atom.letter { char := c, place }).node s.flags), rest)

/-- Reads all parts of a pattern. Every part takes a character, so the length of the pattern is fuel
enough. -/
def readParts : Nat → ReadState → List Char → Except Fault ReadState
  | 0, s, _ => .ok s
  | fuel + 1, s, cs =>
    match skip s.flags.ignoreBlank cs with
    | [] => .ok s
    | cs => do
      let (s, rest) ← readPart s cs
      readParts fuel s rest

/-- A pattern with the names of its groups. -/
structure Tree where
  node : Node
  names : List (String × Nat)

/-- The tree of what was read, if all groups are closed and it is not nested too deeply. -/
def ReadState.toTree (s : ReadState) (pattern : List Char) : Except Fault Tree :=
  match s.outer with
  | group :: _ => throw ⟨.groupUnclosed, group.place, none⟩
  | [] =>
    if nestLimit < s.body.height then throw (faultBetween .tooDeep pattern [])
    else match s.late with
      | some fault => throw fault
      | none => return ⟨s.body.node, s.names.map fun g => (g.name, g.index)⟩

def readAll (pattern : String) : Except Fault ReadState :=
  readParts (pattern.toList.length + 1) {} pattern.toList

def Tree.ofText (pattern : String) : Except Fault Tree := do
  (← readAll pattern).toTree pattern.toList

end DocQuery.Pattern
