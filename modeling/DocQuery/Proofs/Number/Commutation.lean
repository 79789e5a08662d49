import DocQuery.Duration.Basic
import DocQuery.Proofs.Number.Arithmetic

/-!
Sums and products do not depend on the order of their operands, whether they are computed in decimal or
as numbers, and neither do sums of spans.
-/

namespace DocQuery

namespace Number

variable (a b : Number)

protected theorem add_comm : a + b = b + a := by
  show Number.add a b = Number.add b a
  cases a with
  | nan => cases b <;> rfl
  | infinity n =>
      cases b with
      | nan => rfl
      | infinity m => cases n <;> cases m <;> rfl
      | finite _ _ _ => rfl
  | finite n x hx =>
      cases b with
      | nan => rfl
      | infinity m => rfl
      | finite m y hy => rw [Number.add, Number.add, Bool.and_comm, Int.add_comm]

protected theorem mul_comm : a * b = b * a := by
  show Number.mul a b = Number.mul b a
  cases a with
  | nan => cases b <;> rfl
  | infinity n =>
      cases b with
      | nan => rfl
      | infinity m => rw [Number.mul, Number.mul, bne_comm]
      | finite m y hy => rw [Number.mul, Number.mul, bne_comm]
  | finite n x hx =>
      cases b with
      | nan => rfl
      | infinity m => rw [Number.mul, Number.mul, bne_comm]
      | finite m y hy => rw [Number.mul, Number.mul, bne_comm, Nat.mul_comm]

end Number

namespace Decimal

theorem add?_comm (x y : Decimal) : x.add? y = y.add? x := by
  rw [add?, add?, Nat.max_comm, Int.add_comm]

theorem mul?_comm (x y : Decimal) : x.mul? y = y.mul? x := by
  rw [mul?, mul?, bne_comm, Nat.mul_comm, Nat.add_comm]

end Decimal

namespace Number

/-- An operation by way of decimals commutes where it does so in decimal and in numbers. -/
theorem viaDecimal_comm {exact : Decimal → Decimal → Option Decimal} {rounded : Number → Number → Number}
    (hExact : ∀ x y, exact x y = exact y x) (hRounded : ∀ a b, rounded a b = rounded b a) (a b : Number) :
    viaDecimal exact rounded a b = viaDecimal exact rounded b a := by
  rw [viaDecimal, viaDecimal]
  cases Decimal.ofNumber? a with
  | none => cases Decimal.ofNumber? b <;> exact hRounded a b
  | some x =>
      cases Decimal.ofNumber? b with
      | none => exact hRounded a b
      | some y =>
          dsimp only
          rw [hExact, hRounded]

theorem decimalAdd_comm (a b : Number) : a.decimalAdd b = b.decimalAdd a :=
  viaDecimal_comm Decimal.add?_comm Number.add_comm a b

theorem decimalMul_comm (a b : Number) : a.decimalMul b = b.decimalMul a :=
  viaDecimal_comm Decimal.mul?_comm Number.mul_comm a b

end Number

namespace Duration

theorem plus_comm (a b : Duration) : a.plus b = b.plus a := by
  rw [plus, zip, zip]
  congr 1
  funext unit
  exact Number.add_comm _ _

end Duration

end DocQuery
