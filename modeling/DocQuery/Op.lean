/-!
The binary operators of expressions.
-/

namespace DocQuery

inductive Op where
  | equal | notEqual | less | greater | atMost | atLeast
  | add | subtract | multiply | divide | modulo
  | and | or
  deriving DecidableEq

namespace Op

def all : List Op :=
  [equal, notEqual, less, greater, atMost, atLeast, add, subtract, multiply, divide, modulo, and, or]

def symbol : Op → String
  | equal => "="
  | notEqual => "!="
  | less => "<"
  | greater => ">"
  | atMost => "<="
  | atLeast => ">="
  | add => "+"
  | subtract => "-"
  | multiply => "*"
  | divide => "/"
  | modulo => "%"
  | and => "&"
  | or => "|"

def ofSymbol? (symbol : String) : Option Op := all.find? fun op => op.symbol == symbol

def comparisons : List Op := [equal, notEqual, less, greater, atMost, atLeast]

def isComparison (op : Op) : Bool := comparisons.contains op

/-- How tightly an operator binds: one for the tightest, four for the loosest. -/
def level : Op → Nat
  | multiply | divide | modulo => 1
  | add | subtract => 2
  | equal | notEqual | less | greater | atMost | atLeast => 3
  | and | or => 4

def maxLevel : Nat := 4

/-- The truth of a comparison, given how its operands are ordered. -/
def holds : Op → Ordering → Bool
  | equal, order => order == .eq
  | notEqual, order => order != .eq
  | less, order => order == .lt
  | greater, order => order == .gt
  | atMost, order => order != .gt
  | atLeast, order => order != .lt
  | _, _ => false

end Op

end DocQuery
