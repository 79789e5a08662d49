import DocQuery.Builtin.Basic

/-!
Functions that choose between values or tell what a value is.
-/

namespace DocQuery.Builtin

/-- The first value, or the second one if the first is null. -/
def default : Implementation
  | _, [.null, fallback] => .ok fallback
  | _, [v, _] => .ok v
  | _, args => mismatch "default" args

/-- The second value if the first counts as true, else the third. -/
def choice : Implementation
  | _, [condition, yes, no] => .ok (if condition.truthy then yes else no)
  | _, args => mismatch "choice" args

def typeOf : Implementation
  | _, [v] => .ok (.string v.typeName)
  | _, args => mismatch "typeof" args

def isNull : Implementation
  | _, [v] => .ok (.boolean v.isNull)
  | _, args => mismatch "isnull" args

def linkParts : Implementation
  | _, [.link l] => .ok (.object [
      ("display", .ofText? l.display), ("embed", .boolean l.embed), ("path", .string l.path),
      ("subpath", .ofText? l.subpath), ("type", .string l.kind.name)])
  | _, args => mismatch "meta" args

def choiceFunctions : List Function := [
  define "default" |>.takes [any, any] default |>.vectorize 2 [0, 1],
  define "ldefault" |>.takes [any, any] default,
  define "choice" |>.takes [any, any, any] choice |>.vectorize 3 [0],
  define "typeof" |>.takes [any] typeOf,
  define "isnull" |>.takes [any] isNull,
  define "meta" |>.takes [link] linkParts |>.takes [null] missing |>.vectorize 1 [0]]

end DocQuery.Builtin
