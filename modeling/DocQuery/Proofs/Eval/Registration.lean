import DocQuery.Proofs.Eval.Comparison

/-!
The standard table as it is registered, one rule after the other. A rule that is registered for both orders of its
operands is registered for the second order with the operands exchanged; the standard table has it as it is there,
because the rules that this concerns tell their operands by their types.
-/

namespace DocQuery.Operators

variable {scope : Scope} {a b : Value}

/-- What all arithmetic operators have: a rule for numbers, and missing operands. -/
def withArithmetic (t : Operators) (op : Op) : Operators :=
  t.register op (.only .number) (.only .number) (numberRule op)
    |>.registerBoth op (.only .null) (.only .number) missingRule
    |>.registerBoth op (.only .null) (.only .date) missingRule
    |>.registerBoth op (.only .null) (.only .duration) missingRule
    |>.register op (.only .null) (.only .null) missingRule

/-- The rules that are registered before the comparisons. -/
def registeredFirst : Operators :=
  [Op.add, .subtract, .multiply, .divide, .modulo].foldl withArithmetic empty
    |>.register .add (.only .string) .any joinRule
    |>.register .add .any (.only .string) joinRule
    |>.registerBoth .multiply (.only .string) (.only .number) multipleRule
    |>.register .subtract (.only .date) (.only .date) differenceRule
    |>.registerBoth .add (.only .date) (.only .duration) sumRule
    |>.register .subtract (.only .date) (.only .duration) differenceRule
    |>.register .add (.only .duration) (.only .duration) sumRule
    |>.register .subtract (.only .duration) (.only .duration) differenceRule
    |>.registerBoth .multiply (.only .duration) (.only .number) multipleRule
    |>.register .divide (.only .duration) (.only .number) partRule
    |>.register .add (.only .array) (.only .array) sumRule
    |>.register .add (.only .object) (.only .object) sumRule
    |>.register .and .any .any (logicRule (· && ·))
    |>.register .or .any .any (logicRule (· || ·))

/-- The standard rules in the order in which they are registered. -/
def registered : Operators :=
  registeredFirst
    |>.registerOrder (.only .link) (.only .link) Scope.compare
    |>.registerOrder .any .any Scope.compare

/-- The operands that a registered rule sees in exchanged order. Exchanged missing operands make no difference. -/
def isExchanged : Op → ValueType → ValueType → Bool
  | .add, .duration, .date => true
  | .multiply, .number, .string => true
  | .multiply, .number, .duration => true
  | _, _, _ => false

/-- An order gives every comparison its rule and leaves the other operators as they are. -/
theorem rule?_registerOrder (t : Operators) (left right l r : TypePattern)
    (order : Scope → Value → Value → Ordering) (op : Op) :
    (t.registerOrder left right order).rule? op l r =
      if op.isComparison = true ∧ l = left ∧ r = right then some (comparison order op) else t.rule? op l r := by
  cases op <;> by_cases hTypes : l = left ∧ r = right <;>
    simp [registerOrder, register, Op.comparisons, Op.isComparison, hTypes]

theorem rule?_registeredFirst {op : Op} (h : op.isComparison = true) (l r : TypePattern) :
    registeredFirst.rule? op l r = none := by
  cases op <;> cases h <;> rfl

/-- For comparisons the registered rules are the standard ones. -/
theorem lookup?_registered_comparison {op : Op} (h : op.isComparison = true) (left right : ValueType) :
    registered.lookup? op left right = standard.lookup? op left right := by
  rw [lookup?_comparison h]
  by_cases hLinks : left = .link ∧ right = .link
  · simp [lookup?, registered, rule?_registerOrder, h, hLinks]
  · simp [lookup?, registered, rule?_registerOrder, rule?_registeredFirst h, h, hLinks]

/-- For the other operators they are too, but the ones for exchanged operands are flipped. -/
theorem lookup?_registered_other {op : Op} (h : op.isComparison = false) (left right : ValueType) :
    registered.lookup? op left right = (standard.lookup? op left right).map fun rule =>
      if isExchanged op left right then flip rule else rule := by
  cases op <;> cases h <;> cases left <;> cases right <;> rfl

/-- The rules that are registered for exchanged operands only. -/
theorem isExchanged_iff {op : Op} {left right : ValueType} : isExchanged op left right = true ↔
    (op, left, right) ∈ [(Op.add, ValueType.duration, ValueType.date), (.multiply, .number, .string),
      (.multiply, .number, .duration)] := by
  cases op <;> cases left <;> cases right <;> decide

theorem isExchanged_of_isComparison {op : Op} (h : op.isComparison = true) (left right : ValueType) :
    isExchanged op left right = false := by
  cases op <;> cases h <;> rfl

/-- The same rule is found in both tables, up to the order in which it sees its operands. -/
theorem lookup?_registered (op : Op) (left right : ValueType) :
    registered.lookup? op left right = (standard.lookup? op left right).map fun rule =>
      if isExchanged op left right then flip rule else rule := by
  cases h : op.isComparison with
  | true =>
      rw [lookup?_registered_comparison h, isExchanged_of_isComparison h]
      exact Option.map_id'.symm
  | false => exact lookup?_registered_other h left right

/-- A rule that sees its operands in exchanged order does the same with them. -/
theorem flip_of_isExchanged {op : Op} {rule : Rule} (hExchanged : isExchanged op a.type b.type = true)
    (hRule : standard.lookup? op a.type b.type = some rule) : flip rule scope a b = rule scope a b := by
  have hTypes := isExchanged_iff.mp hExchanged
  simp only [List.mem_cons, Prod.mk.injEq, List.not_mem_nil, or_false] at hTypes
  rcases hTypes with ⟨rfl, hLeft, hRight⟩ | ⟨rfl, hLeft, hRight⟩ | ⟨rfl, hLeft, hRight⟩
  · rw [hLeft, hRight] at hRule
    obtain rfl : sumRule = rule := Option.some.inj hRule
    cases a <;> cases hLeft
    cases b <;> cases hRight
    simp only [flip, sumRule]
  · rw [hLeft, hRight] at hRule
    obtain rfl : multipleRule = rule := Option.some.inj hRule
    cases a <;> cases hLeft
    cases b <;> cases hRight
    simp only [flip, multipleRule]
  · rw [hLeft, hRight] at hRule
    obtain rfl : multipleRule = rule := Option.some.inj hRule
    cases a <;> cases hLeft
    cases b <;> cases hRight
    simp only [flip, multipleRule]

/-- The standard table does what the registered rules do. -/
theorem apply_registered (scope : Scope) (op : Op) (a b : Value) :
    registered.apply scope op a b = standard.apply scope op a b := by
  rw [apply, apply, lookup?_registered]
  cases hRule : standard.lookup? op a.type b.type with
  | none => rfl
  | some rule =>
      rw [Option.map_some]
      by_cases hExchanged : isExchanged op a.type b.type = true
      · simp only [if_pos hExchanged]
        exact flip_of_isExchanged hExchanged hRule
      · simp only [if_neg hExchanged]

end DocQuery.Operators
