import DocQuery.Json.Basic
import DocQuery.Text.Range

/-!
Reading documents of the exchange notation. The grammar is strict: no trailing commas, no control
characters in strings, no lone halves of a surrogate pair, and nothing but blanks around the
document. Containers nest at most 127 deep.
-/

namespace DocQuery.Json

def isBlank (c : Char) : Bool := c = ' ' || c = '\n' || c = '\t' || c = '\r'

def skipBlanks (cs : List Char) : List Char := cs.dropWhile isBlank

/-- The first significand that no longer fits into 64 bits. -/
def significandLimit : Nat := Nat.pow 2 64

/-- A significand under way, with the count of digits dropped from the whole part and of digits kept
behind the point. -/
structure Significand where
  digits : Nat
  dropped : Nat
  kept : Nat

/-- Adds a digit, unless the significand is full. Once a digit of the whole part was dropped, so are
all further ones of that part. -/
def Significand.addWhole (s : Significand) (digit : Nat) : Significand :=
  if s.dropped = 0 ∧ s.digits * 10 + digit < significandLimit then
    { s with digits := s.digits * 10 + digit }
  else { s with dropped := s.dropped + 1 }

/-- Adds digits behind the point up to the first one that does not fit. -/
def Significand.addFraction (s : Significand) : List Char → Significand
  | [] => s
  | c :: cs =>
    let digit := c.toNat - '0'.toNat
    if s.digits * 10 + digit < significandLimit then
      addFraction { s with digits := s.digits * 10 + digit, kept := s.kept + 1 } cs
    else s

/-- Multiplies or divides a number by a power of ten, in steps of at most `10 ^ 308`. There is none
when the result is too large. -/
def scaleBy? (n : Number) (exponent : Int) : Option Number :=
  if exponent.natAbs ≤ 308 then
    let power := Number.ofNat (Nat.pow 10 exponent.natAbs)
    if exponent < 0 then some (n / power)
    else if (n * power).isFinite then some (n * power) else none
  else if n.isZero then some n
  else if 0 ≤ exponent then none
  else scaleBy? (n / Number.ofNat (Nat.pow 10 308)) (exponent + 308)
termination_by exponent.natAbs

/-- Reads the exponent of a number, if there is one; a sign and at least one digit must follow the
letter. -/
def readExponent? (cs : List Char) : Option (Option Int × List Char) :=
  match cs with
  | c :: rest =>
    if c = 'e' ∨ c = 'E' then
      let (negative, rest) := match rest with
        | '-' :: more => (true, more)
        | '+' :: more => (false, more)
        | more => (false, more)
      let (digits, rest) := Number.spanDigits rest
      if digits.isEmpty then none
      else
        let size : Int := natOfDigits digits
        some (some (if negative then -size else size), rest)
    else some (none, cs)
  | [] => some (none, [])

/-- Reads the digits behind a point, if there is one; at least one must follow it. -/
def readFraction? (cs : List Char) : Option (Option (List Char) × List Char) :=
  match cs with
  | '.' :: rest =>
    let (digits, rest) := Number.spanDigits rest
    if digits.isEmpty then none else some (some digits, rest)
  | _ => some (none, cs)

/-- The value of a number from its parts. Digits beyond 64 bits are dropped, and the power of ten is
applied to the nearest number of the rest. -/
def numberValue? (negative : Bool) (whole : List Char) (fraction : Option (List Char))
    (exponent : Option Int) : Option Json :=
  let start : Significand :=
    whole.foldl (fun s c => Significand.addWhole s (c.toNat - '0'.toNat)) ⟨0, 0, 0⟩
  if fraction.isNone ∧ exponent.isNone ∧ start.dropped = 0 then
    if !negative then some (.integer start.digits)
    else if start.digits = 0 ∨ Nat.pow 2 63 < start.digits then
      some (.float (-Number.ofNat start.digits))
    else some (.integer (-(start.digits : Int)))
  else
    let s := start.addFraction (fraction.getD [])
    let power := exponent.getD 0
    let size? :=
      if Nat.pow 2 31 ≤ power.natAbs then
        if s.digits ≠ 0 ∧ 0 < power then none else some (Number.signedZero false)
      else scaleBy? (Number.ofNat s.digits) (power + s.dropped - s.kept)
    size?.map fun size => .float (if negative then -size else size)

/-- Reads a number. A whole part of several digits does not begin with zero. -/
def readNumber? (cs : List Char) : Option (Json × List Char) := do
  let (negative, cs) := match cs with
    | '-' :: rest => (true, rest)
    | rest => (false, rest)
  let (whole, cs) := Number.spanDigits cs
  if whole.isEmpty || (1 < whole.length && whole.head? == some '0') then none
  else
    let (fraction, cs) ← readFraction? cs
    let (exponent, cs) ← readExponent? cs
    let value ← numberValue? negative whole fraction exponent
    some (value, cs)

def readHex? (cs : List Char) : Option (Nat × List Char) :=
  let digits := cs.take 4
  let isHex (c : Char) : Bool :=
    c.isDigit || ('a' ≤ c && c ≤ 'f') || ('A' ≤ c && c ≤ 'F')
  if digits.length = 4 ∧ digits.all isHex then some (Text.hexValue digits, cs.drop 4) else none

def readEscape? (cs : List Char) : Option (Char × List Char) :=
  match cs with
  | '"' :: rest => some ('"', rest)
  | '\\' :: rest => some ('\\', rest)
  | '/' :: rest => some ('/', rest)
  | 'b' :: rest => some ('\x08', rest)
  | 'f' :: rest => some ('\x0c', rest)
  | 'n' :: rest => some ('\n', rest)
  | 'r' :: rest => some ('\r', rest)
  | 't' :: rest => some ('\t', rest)
  | 'u' :: rest => do
    let (high, rest) ← readHex? rest
    if 0xDC00 ≤ high ∧ high ≤ 0xDFFF then none
    else if 0xD800 ≤ high ∧ high ≤ 0xDBFF then
      match rest with
      | '\\' :: 'u' :: rest => do
        let (low, rest) ← readHex? rest
        if 0xDC00 ≤ low ∧ low ≤ 0xDFFF then
          some (Char.ofNat (0x10000 + (high - 0xD800) * 0x400 + (low - 0xDC00)), rest)
        else none
      | _ => none
    else some (Char.ofNat high, rest)
  | _ => none

/-- Reads the rest of a string behind its opening quote; `done` holds the characters so far in
reverse. The fuel bounds the number of characters. -/
def readString? : Nat → List Char → List Char → Option (String × List Char)
  | 0, _, _ => none
  | _, _, [] => none
  | fuel + 1, done, c :: cs =>
    if c = '"' then some (String.ofList done.reverse, cs)
    else if c = '\\' then do
      let (c, rest) ← readEscape? cs
      readString? fuel (c :: done) rest
    else if c.toNat < 32 then none
    else readString? fuel (c :: done) cs

mutual

/-- Reads a value. The fuel bounds the number of steps and `depth` the nesting. -/
def readValue? : Nat → Nat → List Char → Option (Json × List Char)
  | 0, _, _ => none
  | fuel + 1, depth, cs =>
    match skipBlanks cs with
    | 'n' :: 'u' :: 'l' :: 'l' :: rest => some (.null, rest)
    | 't' :: 'r' :: 'u' :: 'e' :: rest => some (.bool true, rest)
    | 'f' :: 'a' :: 'l' :: 's' :: 'e' :: rest => some (.bool false, rest)
    | '"' :: rest => (readString? fuel [] rest).map fun (s, rest) => (.string s, rest)
    | '[' :: rest =>
      if depth ≤ 1 then none
      else
        match skipBlanks rest with
        | ']' :: rest => some (.array [], rest)
        | rest => (readItems? fuel (depth - 1) rest).map fun (items, rest) => (.array items, rest)
    | '\x7b' :: rest =>
      if depth ≤ 1 then none
      else
        match skipBlanks rest with
        | '\x7d' :: rest => some (.object [], rest)
        | rest =>
          (readMembers? fuel (depth - 1) rest).map fun (members, rest) => (.object members, rest)
    | rest => readNumber? rest

def readItems? : Nat → Nat → List Char → Option (List Json × List Char)
  | 0, _, _ => none
  | fuel + 1, depth, cs =>
    match readValue? fuel depth cs with
    | none => none
    | some (item, rest) =>
      match skipBlanks rest with
      | ']' :: rest => some ([item], rest)
      | ',' :: rest => (readItems? fuel depth rest).map fun (items, rest) => (item :: items, rest)
      | _ => none

def readMembers? : Nat → Nat → List Char → Option (List (String × Json) × List Char)
  | 0, _, _ => none
  | fuel + 1, depth, cs =>
    match skipBlanks cs with
    | '"' :: rest =>
      match readString? fuel [] rest with
      | none => none
      | some (name, rest) =>
        match skipBlanks rest with
        | ':' :: rest =>
          match readValue? fuel depth rest with
          | none => none
          | some (value, rest) =>
            match skipBlanks rest with
            | '\x7d' :: rest => some ([(name, value)], rest)
            | ',' :: rest =>
              (readMembers? fuel depth rest).map fun (members, rest) =>
                ((name, value) :: members, rest)
            | _ => none
        | _ => none
    | _ => none

end

/-- How deep a document may nest, plus one. -/
def depthLimit : Nat := 128

/-- Reads a document. Every step takes at least one character, so the length of the text is fuel
enough. -/
def ofText? (text : String) : Option Json :=
  match readValue? (2 * text.length + 2) depthLimit text.toList with
  | some (value, rest) => if (skipBlanks rest).isEmpty then some value else none
  | none => none

end DocQuery.Json
