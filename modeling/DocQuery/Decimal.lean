import DocQuery.Number.Arithmetic

/-!
Scaled decimals: a sign, a whole significand of at most 96 bits and at most 28 decimal places.
Sums, differences and products of numbers are computed on them where both operands fit, so that
`0.1 + 0.2` is `0.3`.
-/

namespace DocQuery

/-- The decimal `digits / 10 ^ places` with a sign. -/
structure Decimal where
  negative : Bool
  digits : Nat
  places : Nat
  deriving DecidableEq, Repr

namespace Decimal

/-- The first significand that is too large. -/
def digitLimit : Nat := Nat.pow 2 96

def maxPlaces : Nat := 28

/-- Significands of numbers are cut down to this size, about sixteen digits. -/
def precisionLimit : Nat := Nat.pow 2 52

/-- A significand under way, with the power of ten that it is multiplied by. -/
structure Scaled where
  digits : Nat
  exponent : Int

/-- Divides by two the given number of times. An odd significand is multiplied by five and the point
moved instead, as long as that fits; after that the lowest bit is lost. -/
def halve : Nat → Scaled → Scaled
  | 0, s => s
  | count + 1, ⟨digits, exponent⟩ =>
    if digits % 2 = 0 then halve count ⟨digits / 2, exponent⟩
    else if digits * 5 < digitLimit then halve count ⟨digits * 5, exponent - 1⟩
    else halve count ⟨digits / 2, exponent⟩

/-- Doubles the given number of times. When the significand is full it is divided by five and the
point moved instead. -/
def double : Nat → Scaled → Scaled
  | 0, s => s
  | count + 1, ⟨digits, exponent⟩ =>
    if digits * 2 < digitLimit then double count ⟨digits * 2, exponent⟩
    else double count ⟨digits / 5, exponent + 1⟩

/-- Multiplies by ten the given number of times, if the result fits. -/
def raise? : Nat → Nat → Option Nat
  | 0, digits => some digits
  | count + 1, digits => if digits * 10 < digitLimit then raise? count (digits * 10) else none

/-- Drops the given number of digits one at a time, each time rounding a half up; zero needs no
places. -/
def lower : Nat → Scaled → Scaled
  | 0, s => s
  | count + 1, ⟨digits, exponent⟩ =>
    if digits / 10 = 0 then ⟨0, 0⟩
    else lower count ⟨digits / 10 + (if 5 ≤ digits % 10 then 1 else 0), exponent + 1⟩

/-- Drops digits, rounding a half up each time, while there are places left and the significand
exceeds the precision of a number. -/
def limitPrecision : Nat → Nat → Nat × Nat
  | digits, 0 => (digits, 0)
  | digits, places + 1 =>
    if digits < precisionLimit then (digits, places + 1)
    else limitPrecision (digits / 10 + (if 5 ≤ digits % 10 then 1 else 0)) places

def dropZeros : Nat → Nat → Nat × Nat
  | digits, 0 => (digits, 0)
  | digits, places + 1 =>
    if digits % 10 = 0 then dropZeros (digits / 10) places else (digits, places + 1)

/-- The decimal near a finite number, if its size allows one. -/
def ofNumber? : Number → Option Decimal
  | .finite negative units _ =>
    if units = 0 then some ⟨negative, 0, 0⟩
    else
      let shift := units.log2 - 52
      let significand := units / Nat.pow 2 shift
      let scaled :=
        if shift < 1074 then halve (1074 - shift) ⟨significand, 0⟩
        else double (shift - 1074) ⟨significand, 0⟩
      if 0 < scaled.exponent then
        (raise? scaled.exponent.toNat scaled.digits).map fun digits => ⟨negative, digits, 0⟩
      else
        let bounded := lower ((-scaled.exponent).toNat - maxPlaces) scaled
        let (digits, places) := limitPrecision bounded.digits (-bounded.exponent).toNat
        let (digits, places) := dropZeros digits places
        some ⟨negative && digits != 0, digits, places⟩
  | _ => none

/-- The number near a decimal. The whole part and the quotient of the fraction are added as numbers,
and the sum is rounded once more at the last place. -/
def toNumber (d : Decimal) : Number :=
  if d.places = 0 then Number.ofRatio (d.negative && d.digits != 0) d.digits 1
  else
    let power := Nat.pow 10 d.places
    let scale := Number.ofNat power
    let whole := Number.ofNat (d.digits / power)
    let fraction := Number.ofNat (d.digits % power) / scale
    let size := if fraction.isZero then whole else ((whole + fraction) * scale).round / scale
    if d.negative then -size else size

/-- The decimal nearest to `digits / 10 ^ places` with as many places as fit; a half goes to the even
neighbour. There is none when the whole part alone is too large. -/
def fit? (negative : Bool) (digits places : Nat) : Option Decimal :=
  (List.range (places + 1)).findSome? fun dropped =>
    let kept := Number.roundHalfEven digits (Nat.pow 10 dropped)
    if maxPlaces < places - dropped ∨ digitLimit ≤ kept then none
    else some ⟨negative && kept != 0, kept, places - dropped⟩

/-- The significand, with its sign, when the decimal is written with more places. -/
def signedDigits (places : Nat) (d : Decimal) : Int :=
  let digits : Int := (d.digits * Nat.pow 10 (places - d.places) : Nat)
  if d.negative then -digits else digits

/-- The sum, with the places of the finer operand as far as they fit. -/
def add? (a b : Decimal) : Option Decimal :=
  let places := max a.places b.places
  let sum := a.signedDigits places + b.signedDigits places
  fit? (decide (sum < 0)) sum.natAbs places

def sub? (a b : Decimal) : Option Decimal := add? a { b with negative := !b.negative }

/-- The product, with the places of both operands as far as they fit. -/
def mul? (a b : Decimal) : Option Decimal :=
  fit? (a.negative != b.negative) (a.digits * b.digits) (a.places + b.places)

/-- The decimal with at most the given number of places; a half goes away from zero. -/
def roundTo (places : Nat) (d : Decimal) : Decimal :=
  if d.digits = 0 then ⟨d.negative, 0, places⟩
  else if d.places ≤ places then d
  else
    let power := Nat.pow 10 (d.places - places)
    let digits := (2 * d.digits + power) / (2 * power)
    ⟨d.negative && digits != 0, digits, places⟩

end Decimal

namespace Number

/-- Applies a decimal operation where both operands and the result are decimals, and the operation
on numbers elsewhere. -/
def viaDecimal (exact : Decimal → Decimal → Option Decimal) (rounded : Number → Number → Number)
    (a b : Number) : Number :=
  match Decimal.ofNumber? a, Decimal.ofNumber? b with
  | some x, some y => ((exact x y).map Decimal.toNumber).getD (rounded a b)
  | _, _ => rounded a b

def decimalAdd : Number → Number → Number := viaDecimal Decimal.add? Number.add

def decimalSub : Number → Number → Number := viaDecimal Decimal.sub? Number.sub

def decimalMul : Number → Number → Number := viaDecimal Decimal.mul? Number.mul

/-- The number rounded in decimal to the given count of places, a half away from zero. -/
def roundToPlaces (places : Nat) (n : Number) : Number :=
  match Decimal.ofNumber? n with
  | some d => (d.roundTo places).toNumber
  | none =>
    let scale := ofNat (Nat.pow 10 places)
    (n * scale).round / scale

end Number

end DocQuery
