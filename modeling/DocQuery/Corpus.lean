import DocQuery.Corpus.Document
import DocQuery.Eval.Scope
import DocQuery.Ordered
import DocQuery.Pipeline.Row
import DocQuery.Query.Basic

/-!
A corpus of documents: which documents there are, what links lead to, and the selection of documents by
tags, folders and links.
-/

namespace DocQuery

open Text

/-- Where all links lead to, in both directions. -/
structure LinkIndex where
  /-- For every document, the paths that its links lead to. -/
  outgoing : List (String × List String) := []
  /-- For every path that links lead to, the documents that link to it. -/
  incoming : List (String × List String) := []

def LinkIndex.add (index : LinkIndex) (path : String) (targets : List String) : LinkIndex where
  outgoing := Ordered.put path targets index.outgoing
  incoming := targets.foldl (fun incoming target => Ordered.insertAt target path incoming)
    index.incoming

/-- Documents by path. -/
structure Corpus where
  documents : List (String × Document) := []
  /-- For every stem of a file name in lower case, the paths with that stem. -/
  stems : List (String × List String) := []
  /-- Where links lead to, once it has been found out. -/
  links? : Option LinkIndex := none

namespace Corpus

/-- Adds a document, or replaces the one at the same path. What links lead to has to be found out
anew. -/
def insert (c : Corpus) (d : Document) : Corpus where
  documents := Ordered.put d.path d c.documents
  stems := Ordered.insertAt (Path.stemKey d.path) d.path c.stems
  links? := none

def ofDocuments (ds : List Document) : Corpus := ds.foldl insert {}

def size (c : Corpus) : Nat := c.documents.length

/-- The document at exactly a path. -/
def document? (c : Corpus) (path : String) : Option Document := c.documents.lookup path

def hasPath (c : Corpus) (path : String) : Bool := (c.document? path).isSome

/-- The path that a link text means: the path itself, then the path with the extension `.md`, then the
only document with the same stem. Anything else means itself. -/
def normalize (c : Corpus) (text : String) : String :=
  let path := Path.clean text
  if c.hasPath path then path
  else if c.hasPath (path ++ ".md") then path ++ ".md"
  else
    match c.stems.lookup (Path.stemKey path) with
    | some [only] => only
    | _ => path

def has (c : Corpus) (text : String) : Bool := c.hasPath (c.normalize text)

def targets (c : Corpus) (d : Document) : List String := Ordered.ofList (d.links.map c.normalize)

def findLinks (c : Corpus) : LinkIndex :=
  c.documents.foldl (fun index (_, d) => index.add d.path (c.targets d)) {}

/-- The corpus with the knowledge where its links lead to. -/
def indexed (c : Corpus) : Corpus := { c with links? := some (c.links?.getD c.findLinks) }

def links (c : Corpus) : LinkIndex := c.links?.getD c.findLinks

/-- The paths that the document at a path links to. -/
def outgoingOf (c : Corpus) (path : String) : List String := Ordered.setAt c.links.outgoing path

def incomingOf (c : Corpus) (path : String) : List String := Ordered.setAt c.links.incoming path

/-- The paths that the document meant by a link text links to. -/
def outgoing (c : Corpus) (text : String) : List String := c.outgoingOf (c.normalize text)

/-- The documents that link to what a link text means. -/
def incoming (c : Corpus) (text : String) : List String := c.incomingOf (c.normalize text)

def paths (c : Corpus) : List String := c.documents.map Prod.fst

def pathsWhere (c : Corpus) (test : Document → Bool) : List String :=
  (c.documents.filter fun (_, d) => test d).map Prod.fst

/-- The documents with a tag or one nested in it. -/
def tagged (c : Corpus) (tag : String) : List String :=
  c.pathsWhere fun d => d.tags.any (Tag.isWithin tag)

/-- A folder without slashes around it. -/
def cleanFolder (folder : String) : List Char :=
  ((folder.toList.dropWhile (· == '/')).reverse.dropWhile (· == '/')).reverse

/-- The documents in a folder at any depth; a document at the path itself belongs to it, and one that
has the name of the folder. -/
def inFolder (c : Corpus) (folder : String) : List String :=
  let folder := cleanFolder folder
  if folder.isEmpty then c.paths
  else c.paths.filter fun path =>
    let path := path.toList
    (folder ++ ['/']).isPrefixOf path || path == folder || path == folder ++ ".md".toList

def page? (c : Corpus) (text : String) : Option Object :=
  (c.document? (c.normalize text)).map fun d =>
    d.page (c.outgoingOf d.path) (c.incomingOf d.path)

def tasks (c : Corpus) (text : String) : List Object :=
  let file : Value := ((c.page? text).map fun page => page.get "file").getD .null
  match file with
  | .object file =>
    match Object.get file "tasks" with
    | .array tasks => tasks.filterMap fun task =>
      match task with
      | .object fields => some fields
      | _ => none
    | _ => []
  | _ => []

def toLinks (c : Corpus) : Links where
  page? := c.page?
  normalize := c.normalize
  has := c.has

/-- The documents that a source selects. A link in it must mean a document. -/
def select (c : Corpus) : Source → Except QueryError (List String)
  | .everything => .ok c.paths
  | .tag tag => .ok (c.tagged tag)
  | .folder folder => .ok (c.inFolder folder)
  | .link target direction =>
    let path := c.normalize target
    if c.has path then
      match direction with
      | .incoming => .ok (c.incoming path)
      | .outgoing => .ok (c.outgoing path)
    else .error (.unknownDocument target)
  | .not source => do return Ordered.diff c.paths (← c.select source)
  | .and left right => do
    let left ← c.select left
    return Ordered.inter left (← c.select right)
  | .or left right => do
    let left ← c.select left
    return Ordered.union left (← c.select right)

/-- A row for every document that a source selects, in the order of their paths. -/
def rows (c : Corpus) (source : Source) : Except QueryError (List Row) := do
  let paths ← c.select source
  return paths.filterMap fun path =>
    (c.page? path).map fun page => Row.single (.link (.file path)) page

end Corpus

end DocQuery
