import DocQuery.Calendar.Literal
import DocQuery.Text.LetterCase
import DocQuery.Text.Slice
import DocQuery.Value.Basic

/-!
Documents and their paths and tags.
-/

namespace DocQuery

open Text

structure Task where
  text : String
  completed : Bool := false
  line : Option Nat := none
  /-- Further fields, sorted by name. -/
  fields : Object := []

structure Document where
  path : String
  /-- With or without their hash signs. -/
  tags : List String := []
  /-- The links as they are written. -/
  links : List String := []
  tasks : List Task := []
  /-- Fields, sorted by name. -/
  fields : Object := []

/-! ### Paths -/

namespace Path

def fileName (path : String) : List Char := afterLast '/' path.toList

/-- The name of a file and its extension, parted at the last point; a point at the beginning is part of
the name. -/
def splitName (name : List Char) : List Char × List Char :=
  match beforeLast? '.' name with
  | some (c :: before) => (c :: before, afterLast '.' name)
  | _ => (name, [])

/-- The name of the file without its folder and extension. -/
def stem (path : String) : String := String.ofList (splitName (fileName path)).1

/-- The extension of the file; empty if it has none. -/
def extension (path : String) : String := String.ofList (splitName (fileName path)).2

/-- The folder of the file; empty at the top. -/
def folder (path : String) : String := String.ofList ((beforeLast? '/' path.toList).getD [])

/-- The stem by which links find a file, in lower case. -/
def stemKey (path : String) : String := lower (stem path)

/-- A path as it is written in a link, without blanks around it and slashes before it. -/
def clean (path : String) : String :=
  String.ofList ((trim path.toList).dropWhile (· == '/'))

end Path

/-! ### Tags -/

namespace Tag

def withHash (tag : String) : String := if tag.toList.head? = some '#' then tag else "#" ++ tag

/-- A tag and all tags that it is nested in, the outermost first: `#a`, `#a/b` and `#a/b/c`. -/
def expand (tag : String) : List String :=
  let parts := cutAt '/' tag.toList
  (List.range parts.length).map fun n =>
    String.ofList (List.intercalate ['/'] (parts.take (n + 1)))

/-- Whether a tag is the wanted one or nested in it, in any letter case. -/
def isWithin (wanted tag : String) : Bool :=
  let wanted := (lower (withHash wanted)).toList
  let tag := (lower (withHash tag)).toList
  tag == wanted || (wanted ++ ['/']).isPrefixOf tag

/-- The tags of a list with all tags that they are nested in, each once. -/
def expandAll (tags : List String) : List String :=
  (tags.flatMap fun tag => expand (withHash tag)).foldl
    (fun seen tag => if seen.contains tag then seen else seen ++ [tag]) []

end Tag

/-! ### Fields -/

namespace Task

def toObject (path : String) (t : Task) : Object :=
  let set (o : Object) (name : String) (v : Value) : Object := Keyed.set o name v
  let o := set t.fields "text" (.string t.text)
  let o := set o "completed" (.boolean t.completed)
  let o := set o "status" (.string (if t.completed then "x" else " "))
  let o := match t.line with
    | some line => set o "line" (.number (.ofNat line))
    | none => o
  let o := set o "path" (.string path)
  set o "link" (.link (.file path))

end Task

namespace Document

def linksTo (paths : List String) : Value := .array (paths.map fun path => .link (.file path))

/-- What is known about the file of a document, given the paths that it links to and those that link to
it. The day is there when the name of the file is a date. -/
def fileInfo (d : Document) (outgoing incoming : List String) : Object :=
  let name := Path.stem d.path
  [("path", .string d.path), ("name", .string name), ("folder", .string (Path.folder d.path)),
    ("ext", .string (Path.extension d.path)), ("link", .link (.file d.path)),
    ("tags", .array ((Tag.expandAll d.tags).map Value.string)),
    ("etags", .array (d.tags.map fun tag => .string (Tag.withHash tag))),
    ("outlinks", linksTo outgoing), ("inlinks", linksTo incoming),
    ("tasks", .array (d.tasks.map fun task => .object (task.toObject d.path)))] ++
  ((Date.ofLiteral? name).map fun day => ("day", Value.date day)).toList

/-- The fields of a document, with what is known about its file. -/
def page (d : Document) (outgoing incoming : List String) : Object :=
  Keyed.set d.fields "file" (.object (d.fileInfo outgoing incoming))

end Document

end DocQuery
