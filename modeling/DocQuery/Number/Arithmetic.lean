import DocQuery.Number.Basic

/-!
Arithmetic on numbers. Each operation computes its exact result on counts of units and rounds once,
to the nearest number, a half to the even neighbour. The sign of a zero result follows the operands.
-/

namespace DocQuery.Number

/-- The nearest number to an integer count of units, divided by `d`; `zeroSign` is the sign of a
zero result. -/
def ofSignedUnits (zeroSign : Bool) (units : Int) (d : Nat) : Number :=
  roundUnits (if units = 0 then zeroSign else decide (units < 0)) units.natAbs d

/-- The sum. Infinities of opposite sign have none; a zero sum is negative only when both sides
are. -/
protected def add : Number → Number → Number
  | .nan, _ => .nan
  | _, .nan => .nan
  | .infinity n, .infinity m => if n == m then .infinity n else .nan
  | .infinity n, .finite .. => .infinity n
  | .finite .., .infinity m => .infinity m
  | .finite n a _, .finite m b _ => ofSignedUnits (n && m) (signedUnits n a + signedUnits m b) 1

instance : Add Number := ⟨Number.add⟩

/-- The difference is the sum with the negated second operand. -/
protected def sub (a b : Number) : Number := a + -b

instance : Sub Number := ⟨Number.sub⟩

/-- The product. Zero times infinity has none. -/
protected def mul : Number → Number → Number
  | .nan, _ => .nan
  | _, .nan => .nan
  | .infinity n, .infinity m => .infinity (n != m)
  | .infinity n, .finite m b _ => if b = 0 then .nan else .infinity (n != m)
  | .finite n a _, .infinity m => if a = 0 then .nan else .infinity (n != m)
  | .finite n a _, .finite m b _ => roundUnits (n != m) (a * b) unitsPerOne

instance : Mul Number := ⟨Number.mul⟩

/-- The quotient. Dividing by zero gives infinity, and no number for zero by zero. -/
protected def div : Number → Number → Number
  | .nan, _ => .nan
  | _, .nan => .nan
  | .infinity _, .infinity _ => .nan
  | .infinity n, .finite m _ _ => .infinity (n != m)
  | .finite n _ _, .infinity m => signedZero (n != m)
  | .finite n a _, .finite m b _ =>
    if b = 0 then
      if a = 0 then .nan else .infinity (n != m)
    else roundUnits (n != m) (a * unitsPerOne) b

instance : Div Number := ⟨Number.div⟩

/-- The remainder of division toward zero; it has the sign of the dividend. -/
protected def mod : Number → Number → Number
  | .finite n a fits, .infinity _ => .finite n a fits
  | .finite n a _, .finite _ b _ => if b = 0 then .nan else ofUnits n (a % b)
  | _, _ => .nan

instance : Mod Number := ⟨Number.mod⟩

/-- Applies a rounding rule for whole numbers to the size of a finite number. -/
def mapWhole (rule : Bool → Nat → Nat) : Number → Number
  | .finite negative units _ => roundUnits negative (rule negative units * unitsPerOne) 1
  | other => other

def trunc : Number → Number := mapWhole fun _ units => units / unitsPerOne

def floor : Number → Number := mapWhole fun negative units =>
  if negative then (units + (unitsPerOne - 1)) / unitsPerOne else units / unitsPerOne

def ceil : Number → Number := mapWhole fun negative units =>
  if negative then units / unitsPerOne else (units + (unitsPerOne - 1)) / unitsPerOne

/-- The nearest whole number; a half goes away from zero. -/
def round : Number → Number := mapWhole fun _ units =>
  (2 * units + unitsPerOne) / (2 * unitsPerOne)

end DocQuery.Number
