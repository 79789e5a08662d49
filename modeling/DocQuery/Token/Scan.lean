import DocQuery.Token.Fault
import DocQuery.Calendar.Literal
import DocQuery.Duration.Text
import DocQuery.Text.LetterCase

/-!
Cutting a text into tokens. A token at the front of a text is read together with its length, and the
scan walks over the characters that belong to it; blanks between tokens are passed over.
-/

namespace DocQuery

open Text

namespace Token

/-- What was read at the front of a text: a token with its length, or a fault with its distance from
the front. -/
abbrev Front := Except FaultAt (Token × Nat)

private def symbolOf (s : Symbol) (length : Nat) : Front := .ok (.symbol s, length)

/-- A character that may continue a name. -/
def isNamePart (c : Char) : Bool := isAlphanumeric c || c = '_' || c = '-'

/-- A character that may begin a name. -/
def isNameStart (c : Char) : Bool := isAlphabetic c || c = '_'

/-- A character that may stand in a tag. -/
def isTagPart (c : Char) : Bool := isNamePart c || c = '/'

/-- The character that a backslash and a letter stand for. -/
def unescape (c : Char) : Char :=
  if c = 'n' then '\n' else if c = 't' then '\t' else if c = 'r' then '\r' else c

/-- Reads the rest of a string up to its closing quote: the characters it stands for and the length
of what was read. -/
def readStringBody? (quote : Char) : List Char → Option (List Char × Nat)
  | [] => none
  | c :: cs =>
    if c = quote then some ([], 1)
    else if c = '\\' then
      match cs with
      | [] => none
      | escaped :: rest =>
        (readStringBody? quote rest).map fun (body, length) => (unescape escaped :: body, length + 2)
    else (readStringBody? quote cs).map fun (body, length) => (c :: body, length + 1)

/-- Reads a string behind its opening quote. -/
def readString (quote : Char) (cs : List Char) : Front :=
  match readStringBody? quote cs with
  | some (body, length) => .ok (.string (String.ofList body), length + 1)
  | none => .error ⟨.unterminatedString, 0⟩

/-- Reads a number: digits, and behind a point more digits. -/
def readNumber (cs : List Char) : Front :=
  let (whole, rest) := Number.spanDigits cs
  let fraction := match rest with
    | '.' :: more => more.takeWhile Char.isDigit
    | _ => []
  let value := Numeral.toNumber false ⟨natOfDigits (whole ++ fraction), -fraction.length⟩
  .ok (.number value,
    whole.length + (if fraction.isEmpty then 0 else fraction.length + 1))

/-- The inside of a link up to the closing brackets. -/
def linkInner? : List Char → Option (List Char)
  | [] => none
  | ']' :: ']' :: _ => some []
  | c :: cs => (linkInner? cs).map (c :: ·)

/-- Reads a link behind its opening brackets; `lead` characters stand before the brackets. -/
def readLink (embed : Bool) (lead : Nat) (cs : List Char) : Front :=
  match linkInner? cs with
  | none => .error ⟨.unterminatedLink, lead⟩
  | some inner =>
    if (trim inner).isEmpty then .error ⟨.emptyLink, lead⟩
    else .ok (.link { Link.ofInner inner with embed }, lead + inner.length + 4)

/-- Reads a tag behind its number sign. -/
def readTag (cs : List Char) : Front :=
  let name := cs.takeWhile isTagPart
  if name.isEmpty then .error ⟨.missingTagName, 0⟩
  else .ok (.tag (String.ofList ('#' :: name)), name.length + 1)

/-- The text between an opening parenthesis and the next closing one, if no quote or further opening
parenthesis stands between them. -/
def parenthesized? (cs : List Char) : Option (List Char) :=
  match cs with
  | '(' :: rest =>
    let stops (c : Char) : Bool := c = ')' || c = '(' || c = '"' || c = '\''
    if (rest.dropWhile (!stops ·)).head? = some ')' then some (rest.takeWhile (!stops ·)) else none
  | _ => none

/-- Reads a date or a span written behind its name in parentheses; a text that is no such literal is
left to be read as a call. -/
def readTemporal? (now : Date) (name : String) (cs : List Char) : Option (Token × Nat) := do
  let body ← parenthesized? cs
  let token ←
    if name = "date" then (Date.ofText? now (String.ofList body)).map Token.date
    else if name = "dur" then (Duration.ofLiteral? (String.ofList body)).map Token.duration
    else none
  return (token, name.length + body.length + 2)

/-- The token of a name: some words stand for symbols and constants in any letter case. -/
def ofWord (name : String) : Token :=
  match lower name with
  | "and" => .symbol .and
  | "or" => .symbol .or
  | "true" => .boolean true
  | "false" => .boolean false
  | "null" => .null
  | _ => .identifier name

/-- Reads a name, or a date or span that begins with one. -/
def readWord (now : Date) (cs : List Char) : Front :=
  let name := cs.takeWhile isNamePart
  let word := String.ofList name
  match readTemporal? now word (cs.drop name.length) with
  | some result => .ok result
  | none => .ok (ofWord word, name.length)

/-- Reads the token at the front of a text that does not begin with a blank. -/
def readFront (now : Date) : List Char → Front
  | [] => .ok (.finish, 0)
  | '&' :: _ => symbolOf .and 1
  | '|' :: _ => symbolOf .or 1
  | '.' :: _ => symbolOf .dot 1
  | ',' :: _ => symbolOf .comma 1
  | ':' :: _ => symbolOf .colon 1
  | '+' :: _ => symbolOf .plus 1
  | '-' :: _ => symbolOf .minus 1
  | '*' :: _ => symbolOf .star 1
  | '/' :: _ => symbolOf .slash 1
  | '%' :: _ => symbolOf .percent 1
  | '(' :: _ => symbolOf .openParen 1
  | ')' :: _ => symbolOf .closeParen 1
  | '\x7b' :: _ => symbolOf .openBrace 1
  | '\x7d' :: _ => symbolOf .closeBrace 1
  | ']' :: _ => symbolOf .closeBracket 1
  | '[' :: '[' :: rest => readLink false 0 rest
  | '[' :: _ => symbolOf .openBracket 1
  | '=' :: '=' :: _ => symbolOf .equal 2
  | '=' :: _ => symbolOf .equal 1
  | '>' :: '=' :: _ => symbolOf .atLeast 2
  | '>' :: _ => symbolOf .greater 1
  | '<' :: '=' :: _ => symbolOf .atMost 2
  | '<' :: _ => symbolOf .less 1
  | '!' :: '=' :: _ => symbolOf .notEqual 2
  | '!' :: '[' :: '[' :: rest => readLink true 1 rest
  | '!' :: _ => symbolOf .bang 1
  | '#' :: rest => readTag rest
  | '"' :: rest => readString '"' rest
  | '\'' :: rest => readString '\'' rest
  | c :: rest =>
    if isNameStart c then readWord now (c :: rest)
    else if c.isDigit then readNumber (c :: rest)
    else .error ⟨.unexpectedCharacter c, 0⟩

end Token

/-- The tokens of a text up to its end or to the first fault. -/
structure Scan where
  lexemes : List Lexeme
  fault : Option FaultAt

namespace Scan

def cons (lexeme : Lexeme) (s : Scan) : Scan := ⟨lexeme :: s.lexemes, s.fault⟩

/-- Cuts the rest of a text into tokens. The offset is that of the next character, and `skip`
characters still belong to the last token. -/
def run (now : Date) : Nat → Nat → List Char → Scan
  | _, offset, [] => ⟨[⟨.finish, offset, offset⟩], none⟩
  | skip + 1, offset, _ :: cs => run now skip (offset + 1) cs
  | 0, offset, c :: cs =>
    if isBlank c then run now 0 (offset + 1) cs
    else
      match Token.readFront now (c :: cs) with
      | .ok (token, length) =>
        (run now (length - 1) (offset + 1) cs).cons ⟨token, offset, offset + length⟩
      | .error f => ⟨[], some ⟨f.fault, offset + f.offset⟩⟩

/-- Cuts a text into tokens; named dates are those around the given present. -/
def ofText (now : Date) (text : String) : Scan := run now 0 0 text.toList

/-- The tokens of a text without a fault. -/
def lexemes? (s : Scan) : Except FaultAt (List Lexeme) :=
  match s.fault with
  | some f => .error f
  | none => .ok s.lexemes

end Scan

end DocQuery
