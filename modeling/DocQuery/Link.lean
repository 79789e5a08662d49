import DocQuery.Text.Slice

/-!
Links to documents, or to a header or block in one.
-/

namespace DocQuery

open Text

/-- What a link points at inside its document. -/
inductive LinkKind where
  | file | header | block
  deriving DecidableEq, Ord

namespace LinkKind

def name : LinkKind → String
  | file => "file"
  | header => "header"
  | block => "block"

end LinkKind

/-- A link. How it is shown and whether it is embedded does not change what it points at. -/
structure Link where
  path : String
  display : Option String := none
  subpath : Option String := none
  kind : LinkKind := .file
  embed : Bool := false
  deriving DecidableEq

namespace Link

/-- The link to a whole document. -/
def file (path : String) : Link := { path }

def same (a b : Link) : Bool := a.path == b.path && a.kind == b.kind && a.subpath == b.subpath

def part (cs : List Char) : String := String.ofList (trim cs)

/-- Reads the target of a link text: `path`, `path#Header` or `path#^block`. -/
def ofTarget (target : List Char) : Link :=
  match splitFirst? '#' target with
  | none => file (part target)
  | some (path, '^' :: block) => { path := part path, subpath := some (part block), kind := .block }
  | some (path, header) => { path := part path, subpath := some (part header), kind := .header }

/-- Reads the inside of a link text: a target, and after a bar the text to show. -/
def ofInner (cs : List Char) : Link :=
  match splitFirst? '|' cs with
  | none => ofTarget (trim cs)
  | some (target, display) => { ofTarget (trim target) with display := some (part display) }

/-- The shown text: the display text, else the place in the document, else the name of its file. -/
def displayName (l : Link) : String :=
  l.display.getD <| l.subpath.getD <|
    let name := afterLast '/' l.path.toList
    String.ofList ((dropEnd? ['.', 'm', 'd'] name).getD name)

/-- The written form `[[path#subpath|display]]`, after an exclamation mark when embedded. -/
def markdown (l : Link) : String :=
  let place := match l.kind, l.subpath with
    | .header, some subpath => "#" ++ subpath
    | .block, some subpath => "#^" ++ subpath
    | _, _ => ""
  let shown := match l.display with
    | some display => "|" ++ display
    | none => ""
  (if l.embed then "!" else "") ++ "[[" ++ l.path ++ place ++ shown ++ "]]"

end Link

end DocQuery
