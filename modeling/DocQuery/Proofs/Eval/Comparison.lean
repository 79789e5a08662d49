import DocQuery.Eval.Context
import DocQuery.Proofs.Value.Order

/-!
The comparison operators of the standard table, and `&`. They have no rule for exact types, and the rules
with one open side belong to sums, so every lookup of such an operator ends at the rule for any operands.
-/

namespace DocQuery

instance (s : Scope) : Std.TransCmp s.compare :=
  inferInstanceAs (Std.TransCmp (Value.compareBy s.links.normalize))

namespace Operators

/-- Comparisons have rules for any operands only. -/
theorem exactRule?_comparison {op : Op} (hOp : op.isComparison = true) (left right : ValueType) :
    exactRule? op left right = none := by
  cases op <;> first | rfl | cases hOp

/-- Where no rule is for exact types, the standard rule is used. -/
theorem lookup?_of_no_exactRule {op : Op} (hSum : op ≠ .add)
    (hExact : ∀ left right, exactRule? op left right = none) (left right : ValueType) :
    standard.lookup? op left right = standardRule? op .any .any := by
  have hOnly : standardRule? op (.only left) (.only right) = none := hExact left right
  have hLeft : standardRule? op (.only left) .any = none := by
    cases left <;> simp [standardRule?, hSum]
  have hRight : standardRule? op .any (.only right) = none := by
    cases right <;> simp [standardRule?, hSum]
  simp only [lookup?, standard, hOnly, hLeft, hRight, Option.orElse_none]

/-- The rule of a comparison compares, whatever its operands are. -/
theorem lookup?_comparison {op : Op} (hOp : op.isComparison = true) (left right : ValueType) :
    standard.lookup? op left right = some (comparison Scope.compare op) := by
  have hSum : op ≠ .add := by
    rintro rfl
    cases hOp
  rw [lookup?_of_no_exactRule hSum (exactRule?_comparison hOp)]
  cases op <;> first | rfl | cases hOp

/-- A comparison has a truth value for all operands, and it is read off their order. -/
theorem apply_comparison {op : Op} (hOp : op.isComparison = true) (scope : Scope) (a b : Value) :
    standard.apply scope op a b = .ok (.boolean (op.holds (scope.compare a b))) := by
  rw [apply, lookup?_comparison hOp]
  rfl

end Operators

namespace Context

/-- The standard context of a corpus without documents. -/
def bare : Context := .standard .none {} ⟨0, 0, 0⟩

/-- With the standard operators a comparison compares. -/
theorem apply_comparison {c : Context} (hStandard : c.operators = .standard) {op : Op}
    (hOp : op.isComparison = true) (a b : Value) :
    c.apply op a b = .ok (.boolean (op.holds (c.compare a b))) := by
  rw [CallScope.apply, hStandard]
  exact Operators.apply_comparison hOp c.toScope a b

/-- The operator `&` asks only whether its operands count as true. -/
theorem apply_and {c : Context} (hStandard : c.operators = .standard) (a b : Value) :
    c.apply .and a b = .ok (.boolean (a.truthy && b.truthy)) := by
  rw [CallScope.apply, hStandard, Operators.apply,
    Operators.lookup?_of_no_exactRule (by decide) (fun _ _ => rfl)]
  rfl

end Context
end DocQuery
