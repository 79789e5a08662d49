import DocQuery.Builtin.Basic
import DocQuery.Text.Slice

/-!
Functions that look for one value in another.
-/

namespace DocQuery.Builtin

open Text

/-- Whether a text occurs in another, with letter case ignored or not. -/
def textContains (ignoreCase : Bool) (text needle : String) : Bool :=
  if ignoreCase then Text.occursIn (lower needle).toList (lower text).toList
  else Text.occursIn needle.toList text.toList

def pageHas (scope : CallScope) (l : Link) (name : String) : Bool :=
  (scope.links.page? l.path).any fun page => Keyed.has page name

mutual

/-- Whether a value contains another: a text as a part, an array in any element at any depth, an object
or the document of a link as the name of a field. Anything else contains what equals it. -/
def contains (scope : CallScope) (ignoreCase : Bool) : Value → Value → Bool
  | .string text, .string needle => textContains ignoreCase text needle
  | .array items, needle => anyContains scope ignoreCase items needle
  | .object fields, .string name => Keyed.has fields name
  | .link l, .string name => pageHas scope l name
  | v, needle => scope.compare v needle == .eq

def anyContains (scope : CallScope) (ignoreCase : Bool) : List Value → Value → Bool
  | [], _ => false
  | item :: rest, needle =>
    contains scope ignoreCase item needle || anyContains scope ignoreCase rest needle

end

/-- Whether a value contains another exactly: an array as one of its elements. -/
def containsExactly (scope : CallScope) : Value → Value → Bool
  | .string text, .string needle => textContains false text needle
  | .array items, needle => items.any fun item => scope.compare item needle == .eq
  | .object fields, .string name => Keyed.has fields name
  | v, needle => scope.compare v needle == .eq

def testOf (name : String) (test : CallScope → Value → Value → Bool) : Implementation
  | scope, [v, needle] => .ok (.boolean (test scope v needle))
  | _, args => mismatch name args

/-- Whether a word stands in a text on its own, in any letter case. -/
def containsWord : Implementation
  | scope, [.string text, .string word] => do
    let pattern := "(?i)\\b" ++ scope.patterns.escape word ++ "\\b"
    return .boolean ((← compilePattern scope pattern).occursIn text)
  | _, args => mismatch "containsword" args

def pickFields (source : Object) : List Value → Outcome (List (String × Value))
  | [] => .ok []
  | .string name :: rest => do
    let others ← pickFields source rest
    return ((Keyed.get? source name).map fun v => (name, v)).toList ++ others
  | key :: _ => .error (.keyType "extract" key.type)

def extract : Implementation
  | _, .object source :: names => do return .object (Keyed.ofList (← pickFields source names))
  | _, args => mismatch "extract" args

def containFunctions : List Function := [
  define "contains" |>.takes [any, any] (testOf "contains" (contains · false)),
  define "icontains" |>.takes [any, any] (testOf "icontains" (contains · true)),
  define "econtains" |>.takes [any, any] (testOf "econtains" containsExactly),
  define "containsword"
    |>.takes [string, string] containsWord |>.takes [null, any] missing |>.vectorize 2 [0],
  define "extract" |>.overload .variadic extract]

end DocQuery.Builtin
