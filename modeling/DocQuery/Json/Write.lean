import DocQuery.Json.Basic

/-!
Writing documents of the exchange notation, in one line or indented.
-/

namespace DocQuery.Json

/-- Sizes from `10 ^ -5` on are written in full, exponents have a sign, and among equally short texts
the one with an even last digit is taken. -/
def floatForm : Number.FloatForm := { tie := .even, lowest := -5, plus := true }

/-- The text of a number that is not an integer. -/
def floatText : Number → String
  | .nan => "null"
  | .infinity _ => "null"
  | .finite negative units _ => Number.signText negative ++ floatForm.sizeText units

def escapedChar (c : Char) : String :=
  if c = '"' then "\\\""
  else if c = '\\' then "\\\\"
  else if c = '\n' then "\\n"
  else if c = '\r' then "\\r"
  else if c = '\t' then "\\t"
  else if c = '\x08' then "\\b"
  else if c = '\x0c' then "\\f"
  else if c.toNat < 32 then
    "\\u00" ++ String.ofList [Nat.digitChar (c.toNat / 16), Nat.digitChar (c.toNat % 16)]
  else String.singleton c

def stringText (s : String) : String :=
  s.foldl (fun text c => text ++ escapedChar c) "\"" ++ "\""

mutual

def text : Json → String
  | null => "null"
  | bool b => if b then "true" else "false"
  | integer i => toString i
  | float n => floatText n
  | string s => stringText s
  | array items => "[" ++ ",".intercalate (itemTexts items) ++ "]"
  | object members => "\x7b" ++ ",".intercalate (memberTexts members) ++ "\x7d"

def itemTexts : List Json → List String
  | [] => []
  | item :: rest => text item :: itemTexts rest

def memberTexts : List (String × Json) → List String
  | [] => []
  | (name, value) :: rest => (stringText name ++ ":" ++ text value) :: memberTexts rest

end

/-- The start of a line that is indented to a level. -/
def lineStart (level : Nat) : String := "\n" ++ String.ofList (List.replicate (2 * level) ' ')

/-- A container with its parts in lines of their own; an empty one stays on one line. -/
def block (level : Nat) (opening closing : String) (parts : List String) : String :=
  if parts.isEmpty then opening ++ closing
  else
    opening ++ lineStart (level + 1) ++ ("," ++ lineStart (level + 1)).intercalate parts ++
      lineStart level ++ closing

mutual

/-- The text over several lines, from a level of indentation on. -/
def prettyFrom (level : Nat) : Json → String
  | array items => block level "[" "]" (prettyItems (level + 1) items)
  | object members => block level "\x7b" "\x7d" (prettyMembers (level + 1) members)
  | null => "null"
  | bool b => if b then "true" else "false"
  | integer i => toString i
  | float n => floatText n
  | string s => stringText s

def prettyItems (level : Nat) : List Json → List String
  | [] => []
  | item :: rest => prettyFrom level item :: prettyItems level rest

def prettyMembers (level : Nat) : List (String × Json) → List String
  | [] => []
  | (name, value) :: rest =>
    (stringText name ++ ": " ++ prettyFrom level value) :: prettyMembers level rest

end

/-- The text over several lines, indented by two blanks. -/
def pretty (j : Json) : String := prettyFrom 0 j

end DocQuery.Json
