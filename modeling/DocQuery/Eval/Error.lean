import DocQuery.Expr.Outline

/-!
What can go wrong when an expression is evaluated, and the message for each cause.
-/

namespace DocQuery

/-- The greatest size in bytes of a text that repetition or padding may build. -/
def textLimit : Nat := 16 * 1024 * 1024

inductive EvalError where
  /-- Something else than a name stands where a function is called. -/
  | notCallable (callee : Expr)
  /-- Objects and links are indexed by texts only. -/
  | indexType (container index : ValueType)
  /-- A function that takes names of fields was given something else. -/
  | keyType (function : String) (key : ValueType)
  /-- There is no rule for an operator on values of these types. -/
  | unsupportedOperator (op : Op) (left right : ValueType)
  | unknownFunction (name : String)
  /-- No overload of a function takes arguments of these types. -/
  | noImplementation (name : String) (types : List ValueType)
  | divisionByZero
  /-- A text is no pattern; the reason is the engine's. -/
  | invalidPattern (pattern reason : String)
  /-- A text would be larger than `textLimit`. -/
  | textTooLong
  | dateOutOfRange
  | invalidDateFormat (format : String)
  /-- Keys and values of an object do not pair up. -/
  | oddArguments
  | notFoldable (symbol : String)
  /-- A function reports a failure in its own words. -/
  | failure (text : String)

namespace EvalError

def message : EvalError → String
  | notCallable callee => "Type error: Cannot call " ++ callee.outline ++ " as a function"
  | indexType container index =>
    "Type error: Can only index " ++ container.name ++ "s with strings, got " ++ index.name
  | keyType function key =>
    "Type error: " ++ function ++ "() keys must be strings, got " ++ key.name
  | unsupportedOperator op left right =>
    "No implementation found for '" ++ left.name ++ " " ++ op.symbol ++ " " ++ right.name ++ "'"
  | unknownFunction name => "Unrecognized function name '" ++ name ++ "'"
  | noImplementation name types =>
    "No implementation of '" ++ name ++ "' found for arguments: " ++
      ", ".intercalate (types.map ValueType.name)
  | divisionByZero => "Division by zero"
  | invalidPattern pattern reason => "Invalid regular expression '" ++ pattern ++ "': " ++ reason
  | textTooLong => "String result would exceed " ++ toString textLimit ++ " bytes"
  | dateOutOfRange => "Date arithmetic out of range"
  | invalidDateFormat format => "Invalid date format '" ++ format ++ "'"
  | oddArguments => "object() requires an even number of arguments (key, value, ...)"
  | notFoldable symbol => "reduce() does not support the operator '" ++ symbol ++
      "'; use one of + - * / & |"
  | failure text => text

end EvalError

abbrev Outcome (α : Type) := Except EvalError α

end DocQuery
