import DocQuery.Pattern.CharSet
import DocQuery.Text.Class

/-!
Patterns as trees: sets of characters, conditions on places, sequences, alternatives, repetitions and
captured groups.
-/

namespace DocQuery.Pattern

/-- The conditions on the characters beside a place, of which words are made. -/
inductive WordEdge where
  | edge | notEdge | start | stop | halfStart | halfStop
  deriving DecidableEq

/-- A condition on a place in a text. -/
inductive Look where
  | textStart | textEnd
  | lineStart (crlf : Bool) | lineEnd (crlf : Bool)
  | word (kind : WordEdge) (unicode : Bool)
  deriving DecidableEq

/-- Whether the characters of words include the given one, where a text may have ended. -/
def isWordChar (unicode : Bool) (c : Option Char) : Bool :=
  c.any fun c =>
    if c.toNat < 128 then c.isAlphanum || c = '_'
    else unicode && CharSet.word.hasCode c.toNat

/-- Whether a word edge lies between two places, told by whether words cover them. -/
def WordEdge.holds (before after : Bool) : WordEdge → Bool
  | edge => before != after
  | notEdge => before == after
  | start => !before && after
  | stop => before && !after
  | halfStart => !before
  | halfStop => !after

/-- Whether a condition holds between the previous and the next character. Where carriage returns end
lines too, nothing holds within the pair of a carriage return and a line feed. -/
def Look.holds (previous next : Option Char) : Look → Bool
  | textStart => previous.isNone
  | textEnd => next.isNone
  | lineStart false => previous.isNone || previous = some '\n'
  | lineStart true =>
    previous.isNone || previous = some '\n' || (previous = some '\r' && next != some '\n')
  | lineEnd false => next.isNone || next = some '\n'
  | lineEnd true =>
    next.isNone || next = some '\r' || (next = some '\n' && previous != some '\r')
  | word kind unicode => kind.holds (isWordChar unicode previous) (isWordChar unicode next)

inductive Node where
  | empty
  | set (s : CharSet)
  | look (l : Look)
  | seq (first second : Node)
  /-- The first alternative is preferred. -/
  | either (first second : Node)
  /-- At least and at most so many times; as often as possible when greedy, else as rarely. -/
  | repeat (node : Node) (least : Nat) (most : Option Nat) (greedy : Bool)
  | capture (index : Nat) (node : Node)

namespace Node

def ofSequence : List Node → Node
  | [] => empty
  | [node] => node
  | node :: rest => seq node (ofSequence rest)

/-- Alternatives, the preferred ones first. -/
def ofAlternatives : List Node → Node
  | [] => empty
  | [node] => node
  | node :: rest => either node (ofAlternatives rest)

/-- Whether a node can match the empty text. -/
def canBeEmpty : Node → Bool
  | empty => true
  | set _ => false
  | look _ => true
  | seq a b => a.canBeEmpty && b.canBeEmpty
  | either a b => a.canBeEmpty || b.canBeEmpty
  | .repeat node least _ _ => least == 0 || node.canBeEmpty
  | capture _ node => node.canBeEmpty

def isAlwaysEmpty : Node → Bool
  | empty => true
  | set _ => false
  | look _ => true
  | seq a b => a.isAlwaysEmpty && b.isAlwaysEmpty
  | either a b => a.isAlwaysEmpty && b.isAlwaysEmpty
  | .repeat node _ most _ => most == some 0 || node.isAlwaysEmpty
  | capture _ node => node.isAlwaysEmpty

/-- A repetition. What is always empty is matched once at most. -/
def ofRepeat (node : Node) (least : Nat) (most : Option Nat) (greedy : Bool) : Node :=
  let (least, most) :=
    if node.isAlwaysEmpty then (min least 1, some (min (most.getD 1) 1)) else (least, most)
  match least, most with
  | 0, some 0 => empty
  | 1, some 1 => node
  | _, _ => .repeat node least most greedy

def ofChar (c : Char) : Node := set (CharSet.single c)

/-- The size of a compiled pattern in steps on bytes: an estimate that is exact for plain text. -/
def steps : Node → Nat
  | empty => 1
  | set s => (s.map fun r => if r.last < 128 then 1 else if r.last < 2048 then 2 else 3).sum
  | look _ => 1
  | seq a b => a.steps + b.steps
  | either a b => a.steps + b.steps + 1
  | .repeat node least most _ =>
    match most with
    | none => node.steps * max least 1 + 1
    | some most => node.steps * least + (node.steps + 1) * (most - least)
  | capture _ node => node.steps + 2

end Node

end DocQuery.Pattern
