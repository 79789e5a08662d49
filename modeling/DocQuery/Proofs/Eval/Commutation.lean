import DocQuery.Proofs.Eval.Comparison
import DocQuery.Proofs.Number.Commutation

/-!
Operators whose operands may be exchanged. Comparisons are read off one total order, so that an exchange
turns each into its mirror image. Sums and products have the same rule for both orders of the types of
their operands, and what is left is to exchange the operands of each rule.
-/

namespace DocQuery

/-- Two outcomes that are the same value, or are both failures. -/
def SameResult (x y : Outcome Value) : Prop := ∀ v, x = .ok v ↔ y = .ok v

namespace SameResult

variable {x y : Outcome Value}

theorem of_eq (h : x = y) : SameResult x y := fun v => by rw [h]

theorem of_errors {e e' : EvalError} : SameResult (.error e) (.error e') :=
  fun _ => iff_of_false nofun nofun

end SameResult

/-- The comparison that holds of the exchanged operands. -/
def Op.mirror : Op → Op
  | .less => .greater
  | .greater => .less
  | .atMost => .atLeast
  | .atLeast => .atMost
  | op => op

theorem Op.isComparison_mirror (op : Op) : op.mirror.isComparison = op.isComparison := by
  cases op <;> rfl

theorem Op.holds_mirror (op : Op) (order : Ordering) : op.mirror.holds order.swap = op.holds order := by
  cases op <;> cases order <;> rfl

namespace Operators

/-- A comparison of exchanged operands is the mirrored one. -/
theorem apply_mirror {op : Op} (hOp : op.isComparison = true) (scope : Scope) (a b : Value) :
    standard.apply scope op.mirror b a = standard.apply scope op a b := by
  have hSwap : scope.compare b a = (scope.compare a b).swap := Std.OrientedCmp.eq_swap
  rw [apply_comparison hOp, apply_comparison ((Op.isComparison_mirror op).trans hOp), hSwap, Op.holds_mirror]

/-- The rule of a logical operator is found for all operands. -/
theorem apply_logic {op : Op} {combine : Bool → Bool → Bool}
    (hOp : op = .and ∧ combine = (· && ·) ∨ op = .or ∧ combine = (· || ·)) (scope : Scope) (a b : Value) :
    standard.apply scope op a b = .ok (.boolean (combine a.truthy b.truthy)) := by
  rcases hOp with ⟨rfl, rfl⟩ | ⟨rfl, rfl⟩
  · rw [apply, lookup?_of_no_exactRule (by decide) (fun _ _ => rfl)]
    rfl
  · rw [apply, lookup?_of_no_exactRule (by decide) (fun _ _ => rfl)]
    rfl

/-! ### Sums and products -/

/-- The rules for exact types of sums and products are the same in either order. -/
theorem exactRule?_swap {op : Op} (hOp : op = .add ∨ op = .multiply) (left right : ValueType) :
    exactRule? op left right = exactRule? op right left := by
  rcases hOp with rfl | rfl <;> cases left <;> cases right <;> rfl

/-- Beside the rules that join texts, sums and products have rules for exact types only. -/
theorem lookup?_eq_exactRule? {op : Op} {left right : ValueType} (hOp : op = .add ∨ op = .multiply)
    (hText : op = .add → left ≠ .string ∧ right ≠ .string) :
    standard.lookup? op left right = exactRule? op left right := by
  have hLeft : standardRule? op (.only left) .any = none := by
    cases left <;> simp_all [standardRule?]
  have hRight : standardRule? op .any (.only right) = none := by
    cases right <;> simp_all [standardRule?]
  have hAny : standardRule? op .any .any = none := by
    rcases hOp with rfl | rfl <;> rfl
  have hOnly : standardRule? op (.only left) (.only right) = exactRule? op left right := rfl
  simp only [lookup?, standard, hOnly, hLeft, hRight, hAny, Option.orElse_none]
  cases exactRule? op left right <;> rfl

/-- The rules that sums and products have for exact types. -/
theorem rule_of_exactRule? {op : Op} (hOp : op = .add ∨ op = .multiply) {left right : ValueType} {rule : Rule}
    (h : exactRule? op left right = some rule) :
    rule = numberRule op ∨ rule = missingRule ∨ op = .add ∧ rule = sumRule ∨
      op = .multiply ∧ rule = multipleRule := by
  rcases hOp with rfl | rfl <;> cases left <;> cases right <;> simp_all [exactRule?, isMissable]

/-- Sums and products of numbers are the same in either order. -/
theorem numberRule_swap {op : Op} (hOp : op = .add ∨ op = .multiply) (scope : Scope) (a b : Value) :
    SameResult (numberRule op scope a b) (numberRule op scope b a) := by
  unfold numberRule
  split
  · next x y =>
      have hArithmetic : arithmetic op x y = arithmetic op y x := by
        rcases hOp with rfl | rfl
        · exact congrArg Except.ok (Number.decimalAdd_comm x y)
        · exact congrArg Except.ok (Number.decimalMul_comm x y)
      exact .of_eq (congrArg (Value.number <$> ·) hArithmetic)
  · next hOther =>
      split
      · exact (hOther _ _ rfl rfl).elim
      · exact .of_errors

/-- Sums of spans, and of a date and a span. Arrays and objects are joined in the order they stand in. -/
theorem sumRule_swap (scope : Scope) {a b : Value} (hArrays : ¬(a.type = .array ∧ b.type = .array))
    (hObjects : ¬(a.type = .object ∧ b.type = .object)) :
    SameResult (sumRule scope a b) (sumRule scope b a) := by
  unfold sumRule
  split
  · exact .of_eq rfl
  · exact .of_eq rfl
  · next x y => exact .of_eq (congrArg (fun d => Except.ok (Value.duration d)) (Duration.plus_comm x y))
  · exact absurd ⟨rfl, rfl⟩ hArrays
  · exact absurd ⟨rfl, rfl⟩ hObjects
  · next hMoved hMoving hSpans _ _ =>
      split
      · exact (hMoving _ _ rfl rfl).elim
      · exact (hMoved _ _ rfl rfl).elim
      · exact (hSpans _ _ rfl rfl).elim
      · exact absurd ⟨rfl, rfl⟩ hArrays
      · exact absurd ⟨rfl, rfl⟩ hObjects
      · exact .of_errors

/-- Multiples of texts and spans have their operands in either order. -/
theorem multipleRule_swap (scope : Scope) (a b : Value) :
    SameResult (multipleRule scope a b) (multipleRule scope b a) := by
  unfold multipleRule
  split
  · exact .of_eq rfl
  · exact .of_eq rfl
  · exact .of_eq rfl
  · exact .of_eq rfl
  · next hCopies hCopied hMultiple hMultiplied =>
      split
      · exact (hCopied _ _ rfl rfl).elim
      · exact (hCopies _ _ rfl rfl).elim
      · exact (hMultiplied _ _ rfl rfl).elim
      · exact (hMultiple _ _ rfl rfl).elim
      · exact .of_errors

/-- Whether the operands of a sum are joined in the order they stand in: one of them is a text, or both
are arrays, or both are objects. -/
def Joins (a b : Value) : Prop :=
  (a.type = .string ∨ b.type = .string) ∨ (a.type = .array ∧ b.type = .array) ∨
    (a.type = .object ∧ b.type = .object)

/-- The operands of a product may be exchanged, and those of a sum unless they are joined. -/
theorem apply_swap {op : Op} (hOp : op = .add ∨ op = .multiply) (scope : Scope) {a b : Value}
    (hJoins : op = .add → ¬Joins a b) :
    SameResult (standard.apply scope op a b) (standard.apply scope op b a) := by
  have hText : op = .add → a.type ≠ .string ∧ b.type ≠ .string := fun h =>
    ⟨fun hLeft => hJoins h (.inl (.inl hLeft)), fun hRight => hJoins h (.inl (.inr hRight))⟩
  rw [apply, apply, lookup?_eq_exactRule? hOp hText, lookup?_eq_exactRule? hOp (fun h => (hText h).symm),
    exactRule?_swap hOp b.type a.type]
  cases hRule : exactRule? op a.type b.type with
  | none => exact .of_errors
  | some rule =>
      rcases rule_of_exactRule? hOp hRule with rfl | rfl | ⟨rfl, rfl⟩ | ⟨rfl, rfl⟩
      · exact numberRule_swap hOp scope a b
      · exact .of_eq rfl
      · exact sumRule_swap scope (fun h => hJoins rfl (.inr (.inl h))) fun h => hJoins rfl (.inr (.inr h))
      · exact multipleRule_swap scope a b

end Operators

namespace Context

open Operators

/-- What an exchange of the operands does to each operator: it turns a comparison into its mirror image,
and it leaves equality, logic, products, and all sums but the joined ones as they are. -/
theorem apply_exchanged {c : Context} (hStandard : c.operators = .standard) (a b : Value) :
    (c.apply .less a b = c.apply .greater b a ∧ c.apply .atMost a b = c.apply .atLeast b a ∧
      c.apply .equal a b = c.apply .equal b a ∧ c.apply .notEqual a b = c.apply .notEqual b a) ∧
    (c.apply .and a b = c.apply .and b a ∧ c.apply .or a b = c.apply .or b a) ∧
    SameResult (c.apply .multiply a b) (c.apply .multiply b a) ∧
    (¬Joins a b → SameResult (c.apply .add a b) (c.apply .add b a)) := by
  simp only [CallScope.apply, hStandard]
  refine ⟨⟨?_, ?_, ?_, ?_⟩, ⟨?_, ?_⟩, ?_, ?_⟩
  · exact (apply_mirror (by decide) c.toScope a b).symm
  · exact (apply_mirror (by decide) c.toScope a b).symm
  · exact (apply_mirror (by decide) c.toScope a b).symm
  · exact (apply_mirror (by decide) c.toScope a b).symm
  · rw [apply_logic (.inl ⟨rfl, rfl⟩), apply_logic (.inl ⟨rfl, rfl⟩), Bool.and_comm]
  · rw [apply_logic (.inr ⟨rfl, rfl⟩), apply_logic (.inr ⟨rfl, rfl⟩), Bool.or_comm]
  · exact apply_swap (.inr rfl) c.toScope (by simp)
  · exact fun hJoins => apply_swap (.inl rfl) c.toScope fun _ => hJoins

/-- A sum with a missing operand, and a text repeated by what is no number, in both orders. -/
theorem apply_exchanged_missing : bare.operators = .standard ∧ ¬Joins .null (.duration .zero) ∧
    bare.apply .add (.duration .zero) .null = .ok .null ∧
    bare.apply .multiply (.number .nan) (.string "ab") = .ok (.string "") := by
  have hJoins : ¬Joins .null (.duration .zero) := by simp [Joins, Value.type]
  obtain ⟨-, -, -, hAdd⟩ := @apply_exchanged bare rfl .null (.duration .zero)
  obtain ⟨-, -, hMultiply, -⟩ := @apply_exchanged bare rfl (.string "ab") (.number .nan)
  exact ⟨rfl, hJoins, (hAdd hJoins _).mp rfl, (hMultiply _).mp rfl⟩

end Context

end DocQuery
