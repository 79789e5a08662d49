import DocQuery.Expr.Basic
import DocQuery.Number.Text
import DocQuery.Text.Quoted

/-!
The outline of an expression: its tree with the name of every node, as it stands in messages about
expressions that cannot be called.
-/

namespace DocQuery

open Text

/-- Sizes from `10 ^ -4` on are written in full, and exponents have no sign when positive. -/
def outlineForm : Number.FloatForm := { tie := .up, lowest := -4, plus := false }

/-- A number in an outline: always with a point or an exponent. -/
def Number.outline : Number → String
  | .finite negative units _ => Number.signText negative ++ outlineForm.sizeText units
  | n => n.text

def outlineRecord (name : String) (parts : List (String × String)) : String :=
  name ++ " \x7b " ++ ", ".intercalate (parts.map fun (part, text) => part ++ ": " ++ text) ++ " \x7d"

def outlineNode (name part : String) : String := name ++ "(" ++ part ++ ")"

def outlineOptional : Option String → String
  | none => "None"
  | some text => outlineNode "Some" (quoted text)

namespace LinkKind

def outline : LinkKind → String
  | file => "File"
  | header => "Header"
  | block => "Block"

end LinkKind

def outlineBool (b : Bool) : String := if b then "true" else "false"

def Link.outline (l : Link) : String :=
  outlineRecord "Link" [("path", quoted l.path), ("display", outlineOptional l.display),
    ("subpath", outlineOptional l.subpath), ("kind", l.kind.outline), ("embed", outlineBool l.embed)]

def Duration.outline (d : Duration) : String :=
  outlineRecord "Duration" (DurationUnit.all.map fun unit =>
    (unit.label ++ "s", (d.count unit).outline))

namespace Value

mutual

def outline : Value → String
  | null => "Null"
  | boolean b => outlineNode "Boolean" (outlineBool b)
  | number n => outlineNode "Number" n.outline
  | string s => outlineNode "String" (quoted s)
  | date d => outlineNode "Date" d.isoText
  | duration d => outlineNode "Duration" d.outline
  | link l => outlineNode "Link" l.outline
  | array items => outlineNode "Array" ("[" ++ ", ".intercalate (outlineItems items) ++ "]")
  | object fields =>
    outlineNode "Object" ("\x7b" ++ ", ".intercalate (outlineFields fields) ++ "\x7d")
  | listPair key value =>
    outlineNode "Widget" (outlineRecord "ListPair" [("key", outline key), ("value", outline value)])
  | externalLink url display =>
    outlineNode "Widget" (outlineRecord "ExternalLink"
      [("url", quoted url), ("display", outlineOptional display)])

def outlineItems : List Value → List String
  | [] => []
  | item :: rest => outline item :: outlineItems rest

def outlineFields : List (String × Value) → List String
  | [] => []
  | (name, value) :: rest => (quoted name ++ ": " ++ outline value) :: outlineFields rest

end

end Value

namespace Op

def outline : Op → String
  | equal => "Equal"
  | notEqual => "NotEqual"
  | less => "LessThan"
  | greater => "GreaterThan"
  | atMost => "LessEqual"
  | atLeast => "GreaterEqual"
  | add => "Add"
  | subtract => "Subtract"
  | multiply => "Multiply"
  | divide => "Divide"
  | modulo => "Modulo"
  | and => "And"
  | or => "Or"

end Op

namespace Expr

mutual

def outline : Expr → String
  | literal v => outlineNode "Literal" v.outline
  | .name n => outlineNode "Variable" (quoted n)
  | binary op left right =>
    outlineRecord "Binary" [("left", outline left), ("op", op.outline), ("right", outline right)]
  | call callee args =>
    outlineRecord "Function" [("func", outline callee),
      ("args", "[" ++ ", ".intercalate (outlineItems args) ++ "]")]
  | index container key =>
    outlineRecord "Index" [("object", outline container), ("index", outline key)]
  | not operand => outlineNode "Negated" (outline operand)
  | list items => outlineNode "List" ("[" ++ ", ".intercalate (outlineItems items) ++ "]")
  | object entries =>
    outlineNode "Object" ("\x7b" ++ ", ".intercalate (outlineEntries entries) ++ "\x7d")

def outlineItems : List Expr → List String
  | [] => []
  | item :: rest => outline item :: outlineItems rest

def outlineEntries : List (String × Expr) → List String
  | [] => []
  | (key, value) :: rest => (quoted key ++ ": " ++ outline value) :: outlineEntries rest

end

end Expr

end DocQuery
