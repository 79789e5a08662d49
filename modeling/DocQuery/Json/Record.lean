import DocQuery.Json.Read

/-!
Records in the exchange notation. Known members have the one type they are declared with and occur
once; members that are left out have their default. A record may also be written as the list of its
members in their order.
-/

namespace DocQuery

namespace Json

/-- The only member with a name; none without it, and a failure when it is repeated. -/
def only? (members : List (String × Json)) (name : String) : Option (Option Json) :=
  match members.filter fun (key, _) => key == name with
  | [] => some none
  | [(_, value)] => some (some value)
  | _ => none

/-- The members of a record by their names: of an object by name, of a list by place. -/
def record? (names : List String) : Json → Option (List (String × Json))
  | .object members => some members
  | .array items => if items.length ≤ names.length then some (names.zip items) else none
  | _ => none

def required? {α : Type} (members : List (String × Json)) (name : String)
    (read : Json → Option α) : Option α := do
  read (← (← only? members name))

def optional? {α : Type} (members : List (String × Json)) (name : String) (default : α)
    (read : Json → Option α) : Option α := do
  match ← only? members name with
  | some value => read value
  | none => return default

def toText? : Json → Option String
  | .string s => some s
  | _ => none

def toBool? : Json → Option Bool
  | .bool b => some b
  | _ => none

def toList? {α : Type} (read : Json → Option α) : Json → Option (List α)
  | .array items => items.mapM read
  | _ => none

/-- A natural number of 64 bits, or null. -/
def toNat64? : Json → Option (Option Nat)
  | .null => some none
  | .integer i => if 0 ≤ i ∧ i.toNat < Nat.pow 2 64 then some (some i.toNat) else none
  | _ => none

end Json

end DocQuery
