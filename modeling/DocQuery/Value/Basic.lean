import DocQuery.Duration.Basic
import DocQuery.Keyed
import DocQuery.Link

/-!
The values that expressions have. Containers nest freely. The fields of an object keep the order in
which they were first set.
-/

namespace DocQuery

/-- The types of values, in the order in which values of different types are sorted. -/
inductive ValueType where
  | null | boolean | number | string | date | duration | link | array | object | widget
  deriving DecidableEq, Ord

namespace ValueType

def name : ValueType → String
  | null => "null"
  | boolean => "boolean"
  | number => "number"
  | string => "string"
  | date => "date"
  | duration => "duration"
  | link => "link"
  | array => "array"
  | object => "object"
  | widget => "widget"

end ValueType

/-- A value. The last two forms are widgets, which are only shown. -/
inductive Value where
  | null
  | boolean (b : Bool)
  | number (n : Number)
  | string (s : String)
  | date (d : Date)
  | duration (d : Duration)
  | link (l : Link)
  | array (items : List Value)
  | object (fields : List (String × Value))
  /-- A key with its value, as a list item. -/
  | listPair (key value : Value)
  /-- A link out of the corpus. -/
  | externalLink (url : String) (display : Option String)
  deriving Inhabited

abbrev Object := Keyed Value

/-- The value of a field; a missing field is null. -/
def Object.get (o : Object) (name : String) : Value := (Keyed.get? o name).getD .null

namespace Value

def type : Value → ValueType
  | null => .null
  | boolean _ => .boolean
  | number _ => .number
  | string _ => .string
  | date _ => .date
  | duration _ => .duration
  | link _ => .link
  | array _ => .array
  | object _ => .object
  | listPair .. => .widget
  | externalLink .. => .widget

def typeName (v : Value) : String := v.type.name

def isNull : Value → Bool
  | null => true
  | _ => false

def isArray : Value → Bool
  | array _ => true
  | _ => false

def truthy : Value → Bool
  | null => false
  | boolean b => b
  | number n => !n.isZero && !n.isNan
  | string s => !s.isEmpty
  | date d => !d.isEpoch
  | duration d => !d.isZero
  | link l => !l.path.isEmpty
  | array items => !items.isEmpty
  | object fields => !fields.isEmpty
  | listPair .. => true
  | externalLink .. => true

def ofText? : Option String → Value
  | some s => string s
  | none => null

def ofCount (n : Nat) : Value := number (.ofNat n)

mutual

/-- Equality of values: numbers as numbers, dates as points in time, links by what they point at, and
objects without regard to the order of their fields. -/
def same : Value → Value → Bool
  | null, null => true
  | boolean a, boolean b => a == b
  | number a, number b => a.same b
  | string a, string b => a == b
  | date a, date b => a.compare b == .eq
  | duration a, duration b => DurationUnit.all.all fun unit => (a.count unit).same (b.count unit)
  | link a, link b => a.same b
  | array a, array b => sameItems a b
  | object a, object b => a.length == b.length && sameFields a b
  | listPair k v, listPair l w => same k l && same v w
  | externalLink u d, externalLink v e => u == v && d == e
  | _, _ => false

def sameItems : List Value → List Value → Bool
  | [], [] => true
  | a :: as, b :: bs => same a b && sameItems as bs
  | _, _ => false

/-- Whether every field has an equal field of the same name. -/
def sameFields : List (String × Value) → List (String × Value) → Bool
  | [], _ => true
  | (name, a) :: rest, others =>
    (match others.lookup name with
      | some b => same a b
      | none => false) && sameFields rest others

end

end Value

end DocQuery
