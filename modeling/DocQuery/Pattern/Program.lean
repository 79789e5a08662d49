import DocQuery.Pattern.Node

/-!
Patterns as programs: numbered steps that name their successors. A program is built from its end, so
that a step is placed after the steps that it leads to; only loops lead back.
-/

namespace DocQuery.Pattern

open DocQuery.Text

inductive Step where
  | set (s : RangeTable) (next : Nat)
  | look (l : Look) (next : Nat)
  /-- Both successors are tried, the first one first. -/
  | split (first second : Nat)
  /-- Remembers the place: an even slot is the start of a group, the odd one after it the end. -/
  | save (slot next : Nat)
  | done

abbrev Program := Array Step

namespace Program

def add (p : Program) (step : Step) : Nat × Program := (p.size, p.push step)

/-- A step that tries the body of a repetition and its end, in the order that greed asks for. -/
def choice (greedy : Bool) (body after : Nat) : Step :=
  if greedy then .split body after else .split after body

def addCopies (place : Nat → Program → Nat × Program) : Nat → Nat → Program → Nat × Program
  | 0, next, p => (next, p)
  | count + 1, next, p =>
    let (next, p) := addCopies place count next p
    place next p

/-- Places so many optional copies of a part, each of which needs the one before it. -/
def addOptions (place : Nat → Program → Nat × Program) (greedy : Bool) :
    Nat → Nat → Program → Nat × Program
  | 0, after, p => (after, p)
  | count + 1, after, p =>
    let (next, p) := addOptions place greedy count after p
    let (body, p) := place next p
    p.add (choice greedy body after)

/-- Places a loop through a part that is passed at least once; gives the number of its body and the
number of the step behind it, which is where the loop is left. -/
def addLoop (place : Nat → Program → Nat × Program) (greedy : Bool) (next : Nat) (p : Program) :
    Nat × Nat × Program :=
  let (again, p) := p.add .done
  let (body, p) := place again p
  (body, again, p.setIfInBounds again (choice greedy body next))

/-- Places the steps of a node before the given step. -/
def addNode : Node → Nat → Program → Nat × Program
  | .empty, next, p => (next, p)
  | .set s, next, p => p.add (.set s.toArray next)
  | .look l, next, p => p.add (.look l next)
  | .seq a b, next, p =>
    let (next, p) := addNode b next p
    addNode a next p
  | .either a b, next, p =>
    let (second, p) := addNode b next p
    let (first, p) := addNode a next p
    p.add (.split first second)
  | .repeat node least (some most) greedy, next, p =>
    let (next, p) := addOptions (addNode node) greedy (most - least) next p
    addCopies (addNode node) least next p
  | .repeat node least none greedy, next, p =>
    let (body, again, p) := addLoop (addNode node) greedy next p
    match least with
    | 0 => if node.canBeEmpty then p.add (choice greedy body next) else (again, p)
    | least + 1 => addCopies (addNode node) least body p
  | .capture index node, next, p =>
    let (next, p) := p.add (.save (2 * index + 1) next)
    let (next, p) := addNode node next p
    p.add (.save (2 * index) next)

end Program

end DocQuery.Pattern
