import DocQuery.Number.Arithmetic

/-!
Decimal texts of numbers. Reading takes the nearest number. Writing chooses the fewest digits that
read back as the same number and, among those, the decimal nearest to it; the search tests every
candidate with the reader itself, and falls back to the exact expansion, which always reads back.
-/

namespace DocQuery

/-- A decimal numeral: `digits * 10 ^ exponent`. -/
structure Numeral where
  digits : Nat
  exponent : Int
  deriving DecidableEq, Repr

/-- Which of two shortest numerals that lie equally near is taken. -/
inductive Tie where
  | up
  | even
  deriving DecidableEq

/-- The number of decimal digits of a natural number; zero has one. -/
def decimalLength (n : Nat) : Nat := (Nat.toDigits 10 n).length

def natOfDigits (digits : List Char) : Nat :=
  digits.foldl (fun value c => value * 10 + (c.toNat - '0'.toNat)) 0

namespace Numeral

/-- The nearest number to a numeral. A numeral whose leading digit lies far outside the range of
numbers is settled without computing the power of ten. -/
def toNumber (negative : Bool) (n : Numeral) : Number :=
  if n.digits = 0 then Number.signedZero negative
  else if 400 < n.exponent then .infinity negative
  else if n.exponent + decimalLength n.digits < -400 then Number.signedZero negative
  else if 0 ≤ n.exponent then Number.ofRatio negative (n.digits * Nat.pow 10 n.exponent.toNat) 1
  else Number.ofRatio negative n.digits (Nat.pow 10 (-n.exponent).toNat)

/-- Removes up to `fuel` trailing zeros from the digits. -/
def trim : Nat → Numeral → Numeral
  | 0, n => n
  | fuel + 1, n =>
    if n.digits ≠ 0 ∧ n.digits % 10 = 0 then trim fuel ⟨n.digits / 10, n.exponent + 1⟩ else n

/-- The text without an exponent: zeros fill the places up to the point on either side. -/
def positional (n : Numeral) : String :=
  let digits := Nat.toDigits 10 n.digits
  if 0 ≤ n.exponent then String.ofList (digits ++ List.replicate n.exponent.toNat '0')
  else
    let places := (-n.exponent).toNat
    if places < digits.length then
      String.ofList (digits.take (digits.length - places) ++ '.' ::
        digits.drop (digits.length - places))
    else String.ofList ('0' :: '.' :: List.replicate (places - digits.length) '0' ++ digits)

end Numeral

namespace Number

/-- The exponent of ten at which every count of units has a whole significand. -/
def exactExponent : Nat := 1074

/-- The exact decimal expansion of a count of units, because `2 ^ -1074 = 5 ^ 1074 / 10 ^ 1074`. -/
def exactNumeral (units : Nat) : Numeral := ⟨units * Nat.pow 5 exactExponent, -(exactExponent : Int)⟩

/-- A numeral `digits * 10 ^ (cut - 1074)` reads back as the given count of units. -/
def readsBack (units digits cut : Nat) : Bool :=
  nearestUnits (digits * Nat.pow 10 cut) (Nat.pow 5 exactExponent) == units

/-- Tries the two neighbours of the exact expansion on the grid that keeps all but `cut` digits. -/
def onGrid? (tie : Tie) (units exact cut : Nat) : Option Numeral :=
  let step := Nat.pow 10 cut
  let low := exact / step
  let twice := 2 * (exact % step)
  let numeral (digits : Nat) : Numeral := ⟨digits, (cut : Int) - exactExponent⟩
  match readsBack units low cut, readsBack units (low + 1) cut with
  | true, true =>
    if twice < step then some (numeral low)
    else if step < twice then some (numeral (low + 1))
    else match tie with
      | .up => some (numeral (low + 1))
      | .even => some (numeral (if low % 2 = 0 then low else low + 1))
  | true, false => some (numeral low)
  | false, true => some (numeral (low + 1))
  | false, false => none

/-- The shortest numeral that reads back as the count of units: seventeen digits always suffice, and
the first grid with a hit has the fewest digits. -/
def shortest (tie : Tie) (units : Nat) : Numeral :=
  if units = 0 then ⟨0, 0⟩
  else
    let exact := units * Nat.pow 5 exactExponent
    let length := decimalLength exact
    match (List.range 17).findSome? fun kept => onGrid? tie units exact (length - (kept + 1)) with
    | some numeral => numeral.trim (length + 1)
    | none => exactNumeral units

def signText (negative : Bool) : String := if negative then "-" else ""

/-- The shortest text that reads back, never with an exponent and without a point on whole
numbers. -/
def text : Number → String
  | .nan => "NaN"
  | .infinity negative => signText negative ++ "inf"
  | .finite negative units _ => signText negative ++ (shortest .up units).positional

/-- How numbers are written that always show a point or an exponent. -/
structure FloatForm where
  tie : Tie
  /-- The least power of ten of a leading digit that is written in full; from `10 ^ 16` on an exponent
  is written in every form. -/
  lowest : Int
  /-- Whether positive exponents have a sign. -/
  plus : Bool

/-- The text of the size of a finite number in a form: in full with a digit behind the point, or with
one digit before the point and an exponent. -/
def FloatForm.sizeText (form : FloatForm) (units : Nat) : String :=
  let numeral := shortest form.tie units
  let digits := Nat.toDigits 10 numeral.digits
  let leading := numeral.exponent + digits.length - 1
  if units = 0 then "0.0"
  else if form.lowest ≤ leading ∧ leading < 16 then
    if 0 ≤ numeral.exponent then numeral.positional ++ ".0" else numeral.positional
  else
    let fraction := digits.drop 1
    let sign := if leading < 0 then "-" else if form.plus then "+" else ""
    String.ofList (digits.take 1) ++
      (if fraction.isEmpty then "" else "." ++ String.ofList fraction) ++
      "e" ++ sign ++ toString leading.natAbs

/-- Below this size whole numbers are shown as integers, which have no negative zero. -/
def integerTextLimit : Number := ofNat (Nat.pow 10 15)

/-- The text shown to people: whole numbers below `10 ^ 15` as integers, all else by `text`. -/
def display (n : Number) : String :=
  match n.toInt? with
  | some i => if n.isWhole && n.abs.less integerTextLimit then toString i else n.text
  | none => n.text

def spanDigits (cs : List Char) : List Char × List Char :=
  (cs.takeWhile Char.isDigit, cs.dropWhile Char.isDigit)

/-- Reads an exponent part: nothing, or `e`, an optional sign and digits to the end. -/
def readExponent? : List Char → Option Int
  | [] => some 0
  | c :: rest =>
    if c = 'e' ∨ c = 'E' then
      let (negative, digits) := match rest with
        | '-' :: more => (true, more)
        | '+' :: more => (false, more)
        | more => (false, more)
      if digits.isEmpty || !digits.all Char.isDigit then none
      else
        let size : Int := natOfDigits digits
        some (if negative then -size else size)
    else none

/-- Reads digits with an optional point and exponent; at least one digit is needed. -/
def readUnsigned? (negative : Bool) (cs : List Char) : Option Number :=
  let (whole, rest) := spanDigits cs
  let (fraction, rest) := match rest with
    | '.' :: more => spanDigits more
    | more => ([], more)
  if whole.isEmpty && fraction.isEmpty then none
  else (readExponent? rest).map fun exponent =>
    Numeral.toNumber negative ⟨natOfDigits (whole ++ fraction), exponent - fraction.length⟩

/-- Reads a decimal text with an optional sign, or the name of an infinity or of no number in any
letter case. -/
def ofText? (text : String) : Option Number :=
  let (negative, cs) := match text.toList with
    | '-' :: rest => (true, rest)
    | '+' :: rest => (false, rest)
    | rest => (false, rest)
  let name := String.ofList (cs.map Char.toLower)
  if name = "inf" ∨ name = "infinity" then some (.infinity negative)
  else if name = "nan" then some .nan
  else readUnsigned? negative cs

end Number

end DocQuery
