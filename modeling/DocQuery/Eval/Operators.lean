import DocQuery.Eval.Error
import DocQuery.Eval.Scope

/-!
Tables of operators. A rule belongs to an operator and to patterns for the types of its operands; the
rule for the exact types comes first, then one with any right operand, then one with any left operand,
then one with any operands.
-/

namespace DocQuery

/-- What a value must be: of one type, or anything. -/
inductive TypePattern where
  | any
  | only (type : ValueType)
  deriving DecidableEq

/-- Whether a value is as it must be. -/
def TypePattern.matches : TypePattern → Value → Bool
  | any, _ => true
  | only type, v => v.type == type

/-- How an operator acts on its operands. -/
abbrev Rule := Scope → Value → Value → Outcome Value

structure Operators where
  rule? : Op → TypePattern → TypePattern → Option Rule

namespace Operators

def empty : Operators := ⟨fun _ _ _ => none⟩

def lookup? (t : Operators) (op : Op) (left right : ValueType) : Option Rule :=
  (t.rule? op (.only left) (.only right)).orElse fun _ =>
    (t.rule? op (.only left) .any).orElse fun _ =>
      (t.rule? op .any (.only right)).orElse fun _ => t.rule? op .any .any

def apply (t : Operators) (scope : Scope) (op : Op) (left right : Value) : Outcome Value :=
  match t.lookup? op left.type right.type with
  | some rule => rule scope left right
  | none => .error (.unsupportedOperator op left.type right.type)

/-- The table with a rule for an operator and types; it replaces an earlier one for the same. -/
def register (t : Operators) (op : Op) (left right : TypePattern) (rule : Rule) : Operators :=
  ⟨fun o l r => if o = op ∧ l = left ∧ r = right then some rule else t.rule? o l r⟩

/-- The rule with its operands exchanged. -/
def flip (rule : Rule) : Rule := fun scope a b => rule scope b a

/-- The table with a rule for both orders of the operands; the rule always sees the operand of the
first type first. -/
def registerBoth (t : Operators) (op : Op) (left right : TypePattern) (rule : Rule) : Operators :=
  (t.register op left right rule).register op right left (flip rule)

def comparison (order : Scope → Value → Value → Ordering) (op : Op) : Rule :=
  fun scope a b => .ok (.boolean (op.holds (order scope a b)))

/-- The table with all six comparisons by a given order. -/
def registerOrder (t : Operators) (left right : TypePattern)
    (order : Scope → Value → Value → Ordering) : Operators :=
  Op.comparisons.foldl (fun t op => t.register op left right (comparison order op)) t

end Operators

end DocQuery
