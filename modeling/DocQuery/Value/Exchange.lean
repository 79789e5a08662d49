import DocQuery.Value.Basic
import DocQuery.Calendar.Literal
import DocQuery.Duration.Text
import DocQuery.Json.Write

/-!
Values as documents of the exchange notation. Going out, dates, spans and links become texts; coming
in, texts that look like links or dates become those again.
-/

namespace DocQuery.Value

open Text

/-- Below this size every whole number is exact. -/
def exactIntegerLimit : Number := Number.ofNat (Nat.pow 2 53)

/-- A number as a document: whole numbers of exact size as integers, and null for what is not
finite. -/
def numberJson (n : Number) : Json :=
  if n.isWhole && n.abs.less exactIntegerLimit then
    match n.toInt? with
    | some i => .integer i
    | none => .null
  else if n.isFinite then .float n
  else .null

mutual

def toJson : Value → Json
  | null => .null
  | boolean b => .bool b
  | number n => numberJson n
  | string s => .string s
  | date d => .string d.isoText
  | duration d => .string d.isoText
  | link l => .string l.markdown
  | array items => .array (itemsToJson items)
  | object fields => .ofMembers (fieldsToJson fields)
  | listPair key value => .object [("key", toJson key), ("value", toJson value)]
  | externalLink url display =>
    .object [("display", display.elim .null .string), ("url", .string url)]

def itemsToJson : List Value → List Json
  | [] => []
  | item :: rest => toJson item :: itemsToJson rest

def fieldsToJson : List (String × Value) → List (String × Json)
  | [] => []
  | (name, value) :: rest => (name, toJson value) :: fieldsToJson rest

end

/-- Whether a text begins like a date: `YYYY-MM-DD`. -/
def beginsLikeDate : List Char → Bool
  | y₁ :: y₂ :: y₃ :: y₄ :: '-' :: m₁ :: m₂ :: '-' :: d₁ :: d₂ :: _ =>
    [y₁, y₂, y₃, y₄, m₁, m₂, d₁, d₂].all Char.isDigit
  | _ => false

/-- Reads a link with its brackets: the inside is not blank and does not close the link early. -/
def linkOfText? (cs : List Char) : Option Link := do
  let (embed, cs) := match cs with
    | '!' :: rest => (true, rest)
    | _ => (false, cs)
  let inner ← dropEnd? [']', ']'] (← dropStart? ['[', '['] cs)
  if (trim inner).isEmpty || occursIn [']', ']'] inner then none
  else some { Link.ofInner inner with embed }

/-- The value that a text stands for: a link, a date, or the text itself. -/
def ofText (text : String) : Value :=
  match linkOfText? text.toList with
  | some l => link l
  | none =>
    if beginsLikeDate text.toList then
      match Date.ofLiteral? text with
      | some d => date d
      | none => string text
    else string text

/-- Puts a field into a list sorted by name, unless the name is there already. -/
def placeField (name : String) (value : Value) : List (String × Value) → List (String × Value)
  | [] => [(name, value)]
  | (other, old) :: rest =>
    if other < name then (other, old) :: placeField name value rest
    else if other = name then (other, old) :: rest
    else (name, value) :: (other, old) :: rest

mutual

def ofJson : Json → Value
  | .null => null
  | .bool b => boolean b
  | .integer i => number (.ofInt i)
  | .float n => number n
  | .string s => ofText s
  | .array items => array (itemsOfJson items)
  | .object members => object (fieldsOfJson members)

def itemsOfJson : List Json → List Value
  | [] => []
  | item :: rest => ofJson item :: itemsOfJson rest

/-- The fields of members, sorted by name; of repeated members the last one counts. -/
def fieldsOfJson : List (String × Json) → List (String × Value)
  | [] => []
  | (name, value) :: rest => placeField name (ofJson value) (fieldsOfJson rest)

end

end DocQuery.Value
