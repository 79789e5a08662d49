import DocQuery.Value.Render

/-!
The total order of values. Every value has a sort key, in which link paths are normalized, numbers
are replaced by their place in the order of numbers, and the fields of objects are sorted by name;
values are ordered as their keys are.
-/

namespace DocQuery

/-- What decides the place of a value in the order. -/
inductive SortKey where
  | null
  | boolean (b : Bool)
  | number (rank : Int)
  /-- The text in lower case, then the text itself. -/
  | string (folded exact : String)
  | date (seconds : Int) (nanos : Nat)
  | duration (rank : Int)
  | link (path : String) (kind : LinkKind) (subpath : Option String)
  | array (items : List SortKey)
  | object (fields : List (String × SortKey))
  /-- The shown text. -/
  | widget (text : String)

namespace SortKey

def type : SortKey → ValueType
  | null => .null
  | boolean _ => .boolean
  | number _ => .number
  | string .. => .string
  | date .. => .date
  | duration _ => .duration
  | link .. => .link
  | array _ => .array
  | object _ => .object
  | widget _ => .widget

/-- A missing text comes before every text. -/
def compareOptional : Option String → Option String → Ordering
  | none, none => .eq
  | none, some _ => .lt
  | some _, none => .gt
  | some a, some b => Ord.compare a b

mutual

/-- The order of keys: by type first, and within a type by the parts from left to right. -/
protected def compare : SortKey → SortKey → Ordering
  | boolean a, boolean b => Ord.compare a b
  | number a, number b => Ord.compare a b
  | string f a, string g b => (Ord.compare f g).then (Ord.compare a b)
  | date s m, date t n => (Ord.compare s t).then (Ord.compare m n)
  | duration a, duration b => Ord.compare a b
  | link p k s, link q l t =>
    (Ord.compare p q).then ((Ord.compare k l).then (compareOptional s t))
  | array a, array b => compareItems a b
  | object a, object b => compareFields a b
  | widget a, widget b => Ord.compare a b
  | a, b => Ord.compare a.type b.type

/-- The order of lists: by the first difference, and a shorter list before its continuations. -/
def compareItems : List SortKey → List SortKey → Ordering
  | [], [] => .eq
  | [], _ :: _ => .lt
  | _ :: _, [] => .gt
  | a :: as, b :: bs => (SortKey.compare a b).then (compareItems as bs)

/-- The order of fields: names before values. -/
def compareFields : List (String × SortKey) → List (String × SortKey) → Ordering
  | [], [] => .eq
  | [], _ :: _ => .lt
  | _ :: _, [] => .gt
  | (m, a) :: as, (n, b) :: bs =>
    (Ord.compare m n).then ((SortKey.compare a b).then (compareFields as bs))

end

/-- Puts a field in front of the first field with a greater name. -/
def insertField (field : String × SortKey) : List (String × SortKey) → List (String × SortKey)
  | [] => [field]
  | other :: rest =>
    if other.1 < field.1 then other :: insertField field rest else field :: other :: rest

end SortKey

namespace Value

mutual

/-- The key of a value, with link paths normalized by the given function. -/
def sortKey (normalize : String → String) : Value → SortKey
  | null => .null
  | boolean b => .boolean b
  | number n => .number n.rank
  | string s => .string (Text.lower s) s
  | date d => .date d.seconds d.nanos
  | duration d => .duration d.toMillis.rank
  | link l => .link (normalize l.path) l.kind l.subpath
  | array items => .array (sortKeys normalize items)
  | object fields => .object (fieldKeys normalize fields)
  | listPair key value => .widget (renderPlain (listPair key value))
  | externalLink url display => .widget (renderPlain (externalLink url display))

def sortKeys (normalize : String → String) : List Value → List SortKey
  | [] => []
  | item :: rest => sortKey normalize item :: sortKeys normalize rest

/-- The keys of fields, sorted by name. -/
def fieldKeys (normalize : String → String) : List (String × Value) → List (String × SortKey)
  | [] => []
  | (name, value) :: rest =>
    SortKey.insertField (name, sortKey normalize value) (fieldKeys normalize rest)

end

/-- The order of values, with link paths normalized by the given function. -/
def compareBy (normalize : String → String) (a b : Value) : Ordering :=
  SortKey.compare (a.sortKey normalize) (b.sortKey normalize)

/-- The order of values with link paths as they are written. -/
protected def compare : Value → Value → Ordering := compareBy id

end Value

end DocQuery
