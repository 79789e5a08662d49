/-!
Numbers are the binary numbers of 53 significant bits, with a smallest unit of `2 ^ -1074`, two
infinities and one value that is no number. A finite number is held exactly, as a sign and a whole
count of units, so that comparing and adding numbers is comparing and adding integers.
-/

namespace DocQuery

/-- How many smallest units make one. -/
def unitsPerOne : Nat := Nat.pow 2 1074

/-- The first count of units that is too large for a finite number. -/
def unitLimit : Nat := Nat.pow 2 2098

/-- A count of units is representable when it is below the limit and its bits beyond the leading 53
are zero. -/
def Representable (units : Nat) : Prop :=
  units < unitLimit ∧ units % Nat.pow 2 (units.log2 - 52) = 0

instance (units : Nat) : Decidable (Representable units) :=
  inferInstanceAs (Decidable (_ ∧ _))

/-- A number. The sign of a finite number is kept apart from its size, because zero has a sign. -/
inductive Number where
  /-- The result of an operation without an answer. -/
  | nan
  /-- Beyond every finite number, on the given side. -/
  | infinity (negative : Bool)
  /-- Exactly the given count of units. -/
  | finite (negative : Bool) (units : Nat) (fits : Representable units)
  deriving DecidableEq

namespace Number

/-- The limit leaves room for zero. -/
theorem unitLimit_pos : 0 < unitLimit := by
  delta unitLimit
  apply Nat.pow_pos
  decide

/-- Zero units are representable. -/
theorem representable_zero : Representable 0 :=
  ⟨unitLimit_pos, Nat.zero_mod _⟩

def signedZero (negative : Bool) : Number := .finite negative 0 representable_zero

/-- The number with the given count of units, or infinity when the count is not representable.
After rounding this happens only at the limit. -/
def ofUnits (negative : Bool) (units : Nat) : Number :=
  if fits : Representable units then .finite negative units fits else .infinity negative

/-- The whole number nearest to `n / d`; a half goes to the even neighbour. -/
def roundHalfEven (n d : Nat) : Nat :=
  let quotient := n / d
  let twice := 2 * (n % d)
  if twice < d then quotient
  else if d < twice then quotient + 1
  else if quotient % 2 = 0 then quotient
  else quotient + 1

/-- The representable count of units nearest to `n / d`, with no upper limit. The step between
neighbours is the power of two that leaves 53 bits. -/
def nearestUnits (n d : Nat) : Nat :=
  let step := Nat.pow 2 ((n / d).log2 - 52)
  roundHalfEven n (d * step) * step

/-- The number nearest to `n / d` units. -/
def roundUnits (negative : Bool) (n d : Nat) : Number :=
  ofUnits negative (nearestUnits n d)

/-- The number nearest to `n / d`. -/
def ofRatio (negative : Bool) (n d : Nat) : Number :=
  roundUnits negative (n * unitsPerOne) d

def ofNat (n : Nat) : Number := ofRatio false n 1

def ofInt (i : Int) : Number := ofRatio (decide (i < 0)) i.natAbs 1

instance (n : Nat) : OfNat Number n := ⟨ofNat n⟩

/-- The signed count of units of a finite number. -/
def signedUnits (negative : Bool) (units : Nat) : Int :=
  if negative then -(units : Int) else units

/-- The place of a number in the total order of numbers: infinities lie beyond all finite numbers
and the value that is no number comes last. -/
def rank : Number → Int
  | .nan => unitLimit + 1
  | .infinity negative => signedUnits negative unitLimit
  | .finite negative units _ => signedUnits negative units

def isNan : Number → Bool
  | .nan => true
  | _ => false

def isFinite : Number → Bool
  | .finite .. => true
  | _ => false

/-- Zero of either sign. -/
def isZero : Number → Bool
  | .finite _ units _ => units == 0
  | _ => false

/-- Equality as values: zeros of both signs are equal and the value that is no number equals
nothing. -/
def same (a b : Number) : Bool :=
  !a.isNan && !b.isNan && a.rank == b.rank

/-- Strictly smaller; false as soon as one side is no number. -/
def less (a b : Number) : Bool :=
  !a.isNan && !b.isNan && decide (a.rank < b.rank)

/-- At most; false as soon as one side is no number. -/
def atMost (a b : Number) : Bool :=
  !a.isNan && !b.isNan && decide (a.rank ≤ b.rank)

/-- The total order of numbers: by value, with everything that is no number last. -/
protected def compare (a b : Number) : Ordering := Ord.compare a.rank b.rank

def abs : Number → Number
  | .nan => .nan
  | .infinity _ => .infinity false
  | .finite _ units fits => .finite false units fits

protected def neg : Number → Number
  | .nan => .nan
  | .infinity negative => .infinity (!negative)
  | .finite negative units fits => .finite (!negative) units fits

instance : Neg Number := ⟨Number.neg⟩

/-- Below zero. Zero itself is not, whatever its sign. -/
def isNegative (a : Number) : Bool := a.less (signedZero false)

def isWhole : Number → Bool
  | .finite _ units _ => units % unitsPerOne == 0
  | _ => false

/-- The integer obtained by dropping the fractional part; none for what is not finite. -/
def toInt? : Number → Option Int
  | .finite negative units _ => some (signedUnits negative (units / unitsPerOne))
  | _ => none

/-- The integer without the fractional part, brought into the given bounds; zero for what is no
number. -/
def clamp (low high : Int) : Number → Int
  | .nan => 0
  | .infinity negative => if negative then low else high
  | .finite negative units _ =>
    max low (min high (signedUnits negative (units / unitsPerOne)))

/-- The number of things that a count asks for: its whole part if it is finite and positive, else
none. -/
def toCount : Number → Nat
  | .finite false units _ => min (units / unitsPerOne) (Nat.pow 2 64 - 1)
  | _ => 0

end Number

end DocQuery
