import DocQuery.Pattern.Program
import DocQuery.Pattern.Read

/-!
Searching texts for patterns. The match that begins first is found, and of those the one that the
pattern prefers. Every pair of a step and a place is tried once at most, so that the time is bounded by
the product of both.
-/

namespace DocQuery

namespace Pattern

/-- The places that groups were entered and left at, the latest first. -/
abbrev Saved := List (Nat × Nat)

/-- A point that a search has still to go on from. -/
structure Thread where
  step : Nat
  place : Nat
  saved : Saved

/-- Where a thread goes on: nowhere, at some other points, or at the end of a match. -/
inductive Progress where
  | threads (next : List Thread)
  | found (saved : Saved) (place : Nat)

def Thread.advance (program : Program) (text : Array Char) (t : Thread) : Progress :=
  match program[t.step]? with
  | none => .threads []
  | some .done => .found t.saved t.place
  | some (.set s next) =>
    if text[t.place]?.any s.contains then .threads [⟨next, t.place + 1, t.saved⟩] else .threads []
  | some (.look l next) =>
    let previous := if t.place = 0 then none else text[t.place - 1]?
    if l.holds previous text[t.place]? then .threads [⟨next, t.place, t.saved⟩] else .threads []
  | some (.split first second) =>
    .threads [⟨first, t.place, t.saved⟩, ⟨second, t.place, t.saved⟩]
  | some (.save slot next) => .threads [⟨next, t.place, (slot, t.place) :: t.saved⟩]

/-- Goes on from the threads, the preferred ones first, and leaves out every point that was tried
before: what failed there fails again. The fuel bounds the number of threads that are taken up. -/
def run (program : Program) (text : Array Char) :
    Nat → Array Bool → List Thread → Option (Saved × Nat) × Array Bool
  | 0, tried, _ => (none, tried)
  | _, tried, [] => (none, tried)
  | fuel + 1, tried, t :: rest =>
    let point := t.step * (text.size + 1) + t.place
    if tried.getD point true then run program text fuel tried rest
    else
      let tried := tried.setIfInBounds point true
      match t.advance program text with
      | .found saved place => (some (saved, place), tried)
      | .threads next => run program text fuel tried (next ++ rest)

/-- A match: its ends, and the places of groups. -/
structure Match where
  start : Nat
  stop : Nat
  saved : Saved

/-- Tries the places from the given one on, as many as the count says. -/
def searchFrom (program : Program) (entry : Nat) (text : Array Char) :
    Nat → Array Bool → Nat → Option Match
  | 0, _, _ => none
  | count + 1, tried, start =>
    let fuel := 2 * program.size * (text.size + 1) + 1
    match run program text fuel tried [⟨entry, start, []⟩] with
    | (some (saved, stop), _) => some ⟨start, stop, saved⟩
    | (none, tried) => searchFrom program entry text count tried (start + 1)

end Pattern

inductive PatternError where
  | malformed (fault : Pattern.Fault)
  | tooLarge

def patternSizeLimit : Nat := 10 * Nat.pow 2 20

def patternStepSize : Nat := 32

def PatternError.reason (pattern : String) : PatternError → String
  | malformed fault => fault.report pattern
  | tooLarge =>
    "Compiled regex exceeds size limit of " ++ toString patternSizeLimit ++ " bytes."

structure Pattern where
  program : Pattern.Program
  entry : Nat
  /-- The numbers of the named groups. -/
  names : List (String × Nat)

namespace Pattern

def ofNode (node : Node) (names : List (String × Nat) := []) : Pattern :=
  let (entry, program) := Program.addNode node 0 #[.done]
  { program, entry, names }

def ofText (text : String) : Except PatternError Pattern :=
  match Tree.ofText text with
  | .error fault => .error (.malformed fault)
  | .ok tree =>
    if patternSizeLimit < tree.node.steps * patternStepSize then .error .tooLarge
    else .ok (ofNode tree.node tree.names)

/-- The first match that begins at a given place or later. -/
def searchAt? (p : Pattern) (text : Array Char) (start : Nat) : Option Match :=
  let tried := Array.replicate (p.program.size * (text.size + 1)) false
  searchFrom p.program p.entry text (text.size + 1 - start) tried start

def occursIn (p : Pattern) (text : String) : Bool := (p.searchAt? text.toList.toArray 0).isSome

/-- All matches from a place on, none of which overlap. An empty match right behind the match before it
does not count. -/
def matchesFrom (p : Pattern) (text : Array Char) : Nat → Nat → Option Nat → List Match
  | 0, _, _ => []
  | fuel + 1, start, last =>
    match p.searchAt? text start with
    | none => []
    | some m =>
      let found :=
        if m.start = m.stop && last = some m.stop then p.searchAt? text (start + 1) else some m
      match found with
      | none => []
      | some m => m :: matchesFrom p text fuel m.stop (some m.stop)

def allMatches (p : Pattern) (text : Array Char) : List Match :=
  matchesFrom p text (text.size + 2) 0 none

def between (text : Array Char) (start stop : Nat) : String :=
  String.ofList (text.extract start stop).toList

/-- The parts between given matches, from a place on. -/
def partsBetween (text : Array Char) : Nat → List Match → List String
  | start, [] => [between text start text.size]
  | start, m :: rest => between text start m.start :: partsBetween text m.stop rest

def split (p : Pattern) (text : String) : List String :=
  let text := text.toList.toArray
  partsBetween text 0 (p.allMatches text)

/-- The text of a group of a match; nothing for a group that took no part. -/
def groupText (text : Array Char) (m : Match) (index : Nat) : String :=
  if index = 0 then between text m.start m.stop
  else
    match m.saved.lookup (2 * index), m.saved.lookup (2 * index + 1) with
    | some start, some stop => between text start stop
    | _, _ => ""

/-- The text of the group with a number or a name; nothing for an unknown name. -/
def namedGroupText (p : Pattern) (text : Array Char) (m : Match) (name : List Char) : String :=
  let digits := match name with
    | '+' :: rest => rest
    | _ => name
  let number := digits.foldl (fun n c => n * 10 + (c.toNat - '0'.toNat)) 0
  if !digits.isEmpty && digits.all Char.isDigit && number < Nat.pow 2 64 then groupText text m number
  else ((p.names.lookup (String.ofList name)).map (groupText text m)).getD ""

/-- Whether a character may stand in a reference to a group that is not in braces. -/
def isReferenceChar (c : Char) : Bool := c.isAlphanum || c = '_'

/-- Fills in the references of a replacement to groups: `$1`, `$name`, `$\x7bname\x7d`, and `$$` for a
dollar sign. A dollar sign that begins no reference stands for itself. -/
def fillIn (p : Pattern) (text : Array Char) (m : Match) : Nat → List Char → String
  | fuel + 1, '$' :: '$' :: rest => "$" ++ fillIn p text m fuel rest
  | fuel + 1, '$' :: '{' :: rest =>
    match rest.dropWhile (· != '}') with
    | [] => "$" ++ fillIn p text m fuel ('{' :: rest)
    | _ :: after =>
      namedGroupText p text m (rest.takeWhile (· != '}')) ++ fillIn p text m fuel after
  | fuel + 1, '$' :: rest =>
    let name := rest.takeWhile isReferenceChar
    if name.isEmpty then "$" ++ fillIn p text m fuel rest
    else namedGroupText p text m name ++ fillIn p text m fuel (rest.dropWhile isReferenceChar)
  | fuel + 1, c :: rest => c.toString ++ fillIn p text m fuel rest
  | _, _ => ""

def replaceFrom (p : Pattern) (replacement : List Char) (text : Array Char) :
    Nat → List Match → String
  | start, [] => between text start text.size
  | start, m :: rest =>
    between text start m.start ++ fillIn p text m (replacement.length + 1) replacement ++
      replaceFrom p replacement text m.stop rest

def replaceAll (p : Pattern) (text replacement : String) : String :=
  let text := text.toList.toArray
  replaceFrom p replacement.toList text 0 (p.allMatches text)

end Pattern

end DocQuery
