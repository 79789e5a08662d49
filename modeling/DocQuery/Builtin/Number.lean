import DocQuery.Builtin.Basic
import DocQuery.Decimal

/-!
Functions on numbers, and folds of arrays by operators.
-/

namespace DocQuery.Builtin

def maxRoundPlaces : Nat := 28

/-- A number rounded to places, none unless they are given; a half goes away from zero. -/
def round : Implementation
  | _, [.number n] => .ok (.number (n.roundToPlaces 0))
  | _, [.number n, .number places] =>
    .ok (.number (n.roundToPlaces (min places.toCount maxRoundPlaces)))
  | _, args => mismatch "round" args

def floor : Implementation
  | _, [.number n] => .ok (.number n.floor)
  | _, args => mismatch "floor" args

def ceil : Implementation
  | _, [.number n] => .ok (.number n.ceil)
  | _, args => mismatch "ceil" args

/-- The first of the values that come out on the wanted side of all others. -/
def extreme (order : Value → Value → Ordering) (wanted : Ordering) : List Value → Option Value
  | [] => none
  | v :: rest =>
    some (rest.foldl (fun best v => if order v best = wanted then v else best) v)

/-- The least of the arguments, or of the elements of the only one. -/
def min : Implementation := fun scope args =>
  .ok ((extreme scope.compare .lt (spread args)).getD .null)

/-- The greatest of the arguments, or of the elements of the only one. -/
def max : Implementation := fun scope args =>
  .ok ((extreme scope.compare .gt (spread args)).getD .null)

def foldFrom (scope : CallScope) (op : Op) : Value → List Value → Outcome Value
  | total, [] => .ok total
  | total, item :: rest => do foldFrom scope op (← scope.apply op total item) rest

/-- Joins the values that are not null; null if there are none. -/
def fold (scope : CallScope) (op : Op) (items : List Value) : Outcome Value :=
  match items.filter fun item => !item.isNull with
  | [] => .ok .null
  | item :: rest => foldFrom scope op item rest

def foldable : List Op := [.add, .subtract, .multiply, .divide, .and, .or]

def reduce : Implementation
  | scope, [.array items, .string symbol] =>
    match (Op.ofSymbol? symbol).filter foldable.contains with
    | some op => fold scope op items
    | none => .error (.notFoldable symbol)
  | _, args => mismatch "reduce" args

def sum : Implementation
  | scope, [.array items] => fold scope .add items
  | _, args => mismatch "sum" args

def product : Implementation
  | scope, [.array items] => fold scope .multiply items
  | _, args => mismatch "product" args

/-- The sum divided by the number of values that are not null. -/
def average : Implementation
  | scope, [.array items] => do
    let count := (items.filter fun item => !item.isNull).length
    if count = 0 then return .null
    scope.apply .divide (← fold scope .add items) (.ofCount count)
  | _, args => mismatch "average" args

def numberFunctions : List Function := [
  define "round"
    |>.takes [number] round |>.takes [number, number] round
    |>.takes [null] missing |>.takes [null, any] missing
    |>.vectorize 1 [0] |>.vectorize 2 [0],
  define "floor" |>.takes [number] floor |>.takes [null] missing |>.vectorize 1 [0],
  define "ceil" |>.takes [number] ceil |>.takes [null] missing |>.vectorize 1 [0],
  define "min" |>.overload .variadic min,
  define "max" |>.overload .variadic max,
  define "reduce" |>.takes [array, string] reduce,
  define "sum" |>.takes [array] sum |>.takes [any] first,
  define "product" |>.takes [array] product |>.takes [any] first,
  define "average" |>.takes [array] average |>.takes [any] first]

end DocQuery.Builtin
