import DocQuery.Token.Basic

/-!
What can be wrong with the text of a query or an expression.
-/

namespace DocQuery

/-- A reason for which a text cannot be read. -/
inductive ReadFault where
  | unterminatedString
  | unterminatedLink
  | emptyLink
  | missingTagName
  | unexpectedCharacter (c : Char)
  /-- Something else is needed in the place of a token. -/
  | expected (what : String) (found : Token)
  /-- A token that begins no expression. -/
  | unexpectedInExpression (found : Token)
  | reservedWord (word : String)
  /-- A word in the place of a clause that begins none; the word is in upper case. -/
  | unknownClause (word : String)
  deriving DecidableEq

namespace ReadFault

def display : ReadFault → String
  | unterminatedString => "Unterminated string: missing closing quote"
  | unterminatedLink => "Unterminated link: missing ']]'"
  | emptyLink => "Empty link"
  | missingTagName => "Expected a tag name after '#'"
  | unexpectedCharacter c => "Unexpected character '" ++ String.singleton c ++ "'"
  | expected what found => "Expected " ++ what ++ ", got " ++ found.display
  | unexpectedInExpression found => "Unexpected " ++ found.display ++ " in expression"
  | reservedWord word =>
    "'" ++ word ++ "' is a reserved keyword; use row." ++ word ++
      " to refer to a field with this name"
  | unknownClause word =>
    "Unrecognized query operation '" ++ word ++
      "'; expected FROM, WHERE, SORT, LIMIT, FLATTEN, GROUP BY or HAVING"

end ReadFault

/-- A fault and the offset of the character at which it was found. -/
structure FaultAt where
  fault : ReadFault
  offset : Nat
  deriving DecidableEq

structure ReadError where
  fault : ReadFault
  position : Position
  deriving DecidableEq

namespace ReadError

/-- Finds the place of a fault in the text it belongs to. -/
def locate (text : String) (f : FaultAt) : ReadError :=
  ⟨f.fault, .atOffset text.toList f.offset⟩

def message (e : ReadError) : String := e.fault.display ++ " at " ++ e.position.display

end ReadError

end DocQuery
