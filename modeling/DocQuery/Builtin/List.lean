import DocQuery.Builtin.Basic
import DocQuery.Sequence

/-!
Functions on arrays.
-/

namespace DocQuery.Builtin

def reverse : Implementation
  | _, [.array items] => .ok (.array items.reverse)
  | _, [.string s] => .ok (.string (String.ofList s.toList.reverse))
  | _, args => mismatch "reverse" args

def sort : Implementation
  | scope, [.array items] => .ok (.array (Sequence.sortBy scope.compare items))
  | _, args => mismatch "sort" args

def joinTexts (scope : CallScope) (separator : String) (items : List Value) : Outcome Value :=
  .ok (.string (separator.intercalate (items.map scope.render)))

/-- The text of an array with a separator between the elements, a comma unless it is given. -/
def join : Implementation
  | scope, [.array items] => joinTexts scope ", " items
  | scope, [.array items, .string separator] => joinTexts scope separator items
  | scope, [v] => .ok (.string (scope.render v))
  | _, args => mismatch "join" args

/-- Whether any of the arguments, or of the elements of the only one, counts as true. -/
def anyTrue : Implementation := fun _ args => .ok (.boolean ((spread args).any Value.truthy))

def allTrue : Implementation := fun _ args => .ok (.boolean ((spread args).all Value.truthy))

def noneTrue : Implementation := fun _ args => .ok (.boolean (!(spread args).any Value.truthy))

/-- The elements of an array without those that equal an earlier one. -/
def unique : Implementation
  | scope, [.array items] => .ok (.array (Sequence.distinctBy scope.compare items))
  | _, args => mismatch "unique" args

/-- The arguments, or the elements of the only one, that are not null. -/
def nonNull : Implementation := fun _ args =>
  .ok (.array ((spread args).filter fun v => !v.isNull))

mutual

/-- Replaces the arrays among the elements by their elements, so many levels deep. -/
def flatten (depth : Nat) : List Value → List Value
  | [] => []
  | item :: rest => flattenItem depth item ++ flatten depth rest

def flattenItem : Nat → Value → List Value
  | depth + 1, .array items => flatten depth items
  | _, v => [v]

end

/-- An array flattened, one level deep unless the depth is given. -/
def flat : Implementation
  | _, [.array items] => .ok (.array (flatten 1 items))
  | _, [.array items, .number depth] => .ok (.array (flatten depth.toCount items))
  | _, args => mismatch "flat" args

def listFunctions : List Function := [
  define "reverse" |>.takes [array] reverse |>.takes [string] reverse |>.takes [null] missing,
  define "sort" |>.takes [array] sort |>.takes [null] missing,
  define "join" |>.takes [array] join |>.takes [array, string] join |>.takes [any] join,
  define "any" |>.overload .variadic anyTrue,
  define "all" |>.overload .variadic allTrue,
  define "none" |>.overload .variadic noneTrue,
  define "unique" |>.takes [array] unique,
  define "nonnull" |>.overload .variadic nonNull,
  define "flat" |>.takes [array] flat |>.takes [array, number] flat]

end DocQuery.Builtin
