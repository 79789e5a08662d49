import DocQuery.Eval.Operators
import DocQuery.Value.Render

/-!
The standard rules of the operators. Numbers are computed in decimal where that is possible; a missing
operand makes arithmetic on numbers, dates and spans come out missing; texts join anything; logic and
comparison take any operands.
-/

namespace DocQuery.Operators

/-- Arithmetic on numbers. Dividing by zero has no result. -/
def arithmetic (op : Op) (a b : Number) : Outcome Number :=
  match op with
  | .add => .ok (a.decimalAdd b)
  | .subtract => .ok (a.decimalSub b)
  | .divide => if b.isZero then .error .divisionByZero else .ok (a / b)
  | .modulo => if b.isZero then .error .divisionByZero else .ok (a % b)
  | _ => .ok (a.decimalMul b)

/-- A text as often as the whole part of a number says, which must not make it larger than the limit.
Counts below one and counts that are not finite repeat nothing. -/
def repeatText (text : String) (count : Number) : Outcome String :=
  if !count.isFinite || count.less 1 || text.isEmpty then .ok ""
  else
    match count.toInt? with
    | none => .ok ""
    | some times =>
      if textLimit / text.utf8ByteSize < times then .error .textTooLong
      else .ok (String.join (List.replicate times.toNat text))

def shiftDate (d : Date) (span : Duration) (sign : Number) : Outcome Value :=
  match d.shift? span sign with
  | some moved => .ok (.date moved)
  | none => .error .dateOutOfRange

def numberRule (op : Op) : Rule
  | _, .number a, .number b => Value.number <$> arithmetic op a b
  | _, a, b => .error (.unsupportedOperator op a.type b.type)

def missingRule : Rule := fun _ _ _ => .ok .null

def joinRule : Rule := fun scope a b => .ok (.string (scope.render a ++ scope.render b))

def sumRule : Rule
  | _, .date d, .duration span => shiftDate d span 1
  | _, .duration span, .date d => shiftDate d span 1
  | _, .duration a, .duration b => .ok (.duration (a.plus b))
  | _, .array a, .array b => .ok (.array (a ++ b))
  | _, .object a, .object b => .ok (.object (Keyed.merge a b))
  | _, a, b => .error (.unsupportedOperator .add a.type b.type)

/-- The rule of differences of what is no number. -/
def differenceRule : Rule
  | _, .date a, .date b => .ok (.duration (a.difference b))
  | _, .date d, .duration span => shiftDate d span (-1)
  | _, .duration a, .duration b => .ok (.duration (a.minus b))
  | _, a, b => .error (.unsupportedOperator .subtract a.type b.type)

def multipleRule : Rule
  | _, .string text, .number count => Value.string <$> repeatText text count
  | _, .number count, .string text => Value.string <$> repeatText text count
  | _, .duration span, .number factor => .ok (.duration (span.scale factor))
  | _, .number factor, .duration span => .ok (.duration (span.scale factor))
  | _, a, b => .error (.unsupportedOperator .multiply a.type b.type)

def partRule : Rule
  | _, .duration span, .number divisor =>
    if divisor.isZero then .error .divisionByZero
    else .ok (.duration (span.scale (1 / divisor)))
  | _, a, b => .error (.unsupportedOperator .divide a.type b.type)

/-- The rule of a logical operator, which looks at both operands. -/
def logicRule (combine : Bool → Bool → Bool) : Rule :=
  fun _ a b => .ok (.boolean (combine a.truthy b.truthy))

/-- The types whose arithmetic comes out missing when the other operand is. -/
def isMissable : ValueType → Bool
  | .null | .number | .date | .duration => true
  | _ => false

/-- The rules for operands of exact types. -/
def exactRule? (op : Op) (left right : ValueType) : Option Rule :=
  match op with
  | .and | .or => none
  | .equal | .notEqual | .less | .greater | .atMost | .atLeast => none
  | op =>
    match left, right with
    | .number, .number => some (numberRule op)
    | .null, other => if isMissable other then some missingRule else none
    | other, .null => if isMissable other then some missingRule else none
    | left, right =>
      match op, left, right with
      | .add, .date, .duration => some sumRule
      | .add, .duration, .date => some sumRule
      | .add, .duration, .duration => some sumRule
      | .add, .array, .array => some sumRule
      | .add, .object, .object => some sumRule
      | .subtract, .date, .date => some differenceRule
      | .subtract, .date, .duration => some differenceRule
      | .subtract, .duration, .duration => some differenceRule
      | .multiply, .string, .number => some multipleRule
      | .multiply, .number, .string => some multipleRule
      | .multiply, .duration, .number => some multipleRule
      | .multiply, .number, .duration => some multipleRule
      | .divide, .duration, .number => some partRule
      | _, _, _ => none

def standardRule? (op : Op) : TypePattern → TypePattern → Option Rule
  | .only left, .only right => exactRule? op left right
  | .only .string, .any => if op = .add then some joinRule else none
  | .any, .only .string => if op = .add then some joinRule else none
  | .any, .any =>
    match op with
    | .and => some (logicRule (· && ·))
    | .or => some (logicRule (· || ·))
    | op => if op.isComparison then some (comparison Scope.compare op) else none
  | _, _ => none

def standard : Operators := ⟨standardRule?⟩

end DocQuery.Operators
