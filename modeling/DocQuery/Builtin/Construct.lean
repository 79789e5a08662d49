import DocQuery.Builtin.Basic
import DocQuery.Calendar.Literal
import DocQuery.Calendar.Pattern.Read
import DocQuery.Duration.Text

/-!
Functions that make values of one type out of others.
-/

namespace DocQuery.Builtin

/-- The number of elements, fields or characters; zero for anything else. -/
def length : Implementation := fun _ args =>
  .ok <| Value.ofCount <| match args with
    | [.array items] => items.length
    | [.object fields] => fields.length
    | [.string s] => s.length
    | _ => 0

def list : Implementation := fun _ args => .ok (.array args)

/-- The fields named and given by the arguments in turn. -/
def objectFields : List Value → Outcome (List (String × Value))
  | .string key :: value :: rest => do return (key, value) :: (← objectFields rest)
  | key :: _ :: _ => .error (.keyType "object" key.type)
  | _ => .ok []

/-- The object of keys and values in turn. -/
def object : Implementation := fun _ args => do
  if args.length % 2 != 0 then throw .oddArguments
  return .object (Keyed.ofList (← objectFields args))

/-- The link to a path, under the path by which the document is known, or a given link; with a text to
show if there is one. -/
def makeLink : Implementation := fun scope args =>
  let base? : Option Link := match args with
    | .string path :: _ => some (.file (scope.links.normalize path))
    | .link l :: _ => some l
    | _ => none
  match base?, args.drop 1 with
  | some base, .string display :: _ => .ok (.link { base with display := some display })
  | some base, .null :: _ => .ok (.link base)
  | some base, [] => .ok (.link base)
  | _, _ => mismatch "link" args

/-- A link that is embedded, or as the second argument says. -/
def embed : Implementation
  | _, [.link l] => .ok (.link { l with embed := true })
  | _, [.link l, .boolean flag] => .ok (.link { l with embed := flag })
  | _, args => mismatch "embed" args

def externalLink : Implementation
  | _, [.string url] => .ok (.externalLink url none)
  | _, [.string url, .string display] => .ok (.externalLink url (some display))
  | _, args => mismatch "elink" args

def orNull {α : Type} (make : α → Value) : Option α → Outcome Value
  | some a => .ok (make a)
  | none => .ok .null

def dateOfText : Implementation
  | scope, [.string text] => orNull .date (Date.ofText? scope.now text)
  | _, args => mismatch "date" args

/-- The date that the name of a linked file is. -/
def dateOfLink : Implementation
  | _, [.link l] => orNull .date (Date.ofLiteral? (Link.file l.path).displayName)
  | _, args => mismatch "date" args

/-- A date by its text and the pattern that the text follows. -/
def dateOfPattern : Implementation
  | _, [.string text, .string pattern] => orNull .date (Date.ofPattern? text pattern)
  | _, args => mismatch "date" args

def durationOfText : Implementation
  | _, [.string text] => orNull .duration (Duration.ofLiteral? text)
  | _, args => mismatch "dur" args

/-- The number that a text begins with: a sign, digits and a fraction, of which the digits are
needed. -/
def leadingNumber? (cs : List Char) : Option (List Char) :=
  let (sign, cs) := match cs with
    | '-' :: rest => (['-'], rest)
    | cs => ([], cs)
  let (whole, rest) := Number.spanDigits cs
  let fraction := match rest with
    | '.' :: more =>
      let digits := more.takeWhile Char.isDigit
      if digits.isEmpty then [] else '.' :: digits
    | _ => []
  if whole.isEmpty then none else some (sign ++ whole ++ fraction)

def firstNumber? : List Char → Option Number
  | [] => none
  | c :: rest =>
    match leadingNumber? (c :: rest) with
    | some digits => Number.ofText? (String.ofList digits)
    | none => firstNumber? rest

/-- The first number in a text, such as 4.5 in `costs 4.5 dollars`. -/
def numberOfText : Implementation
  | _, [.string text] => orNull .number (firstNumber? text.toList)
  | _, args => mismatch "number" args

def textOf : Implementation
  | scope, [v] => .ok (.string (scope.render v))
  | _, args => mismatch "string" args

def constructors : List Function := [
  define "length" |>.takes [any] length,
  define "list" |>.overload .variadic list,
  define "object" |>.overload .variadic object,
  define "link"
    |>.takes [string] makeLink |>.takes [link] makeLink
    |>.takes [string, string] makeLink |>.takes [link, string] makeLink
    |>.takes [null] missing |>.takes [null, any] missing
    |>.vectorize 1 [0] |>.vectorize 2 [0],
  define "embed"
    |>.takes [link] embed |>.takes [link, boolean] embed
    |>.takes [null] missing |>.takes [null, any] missing
    |>.vectorize 1 [0] |>.vectorize 2 [0],
  define "elink"
    |>.takes [string] externalLink |>.takes [string, string] externalLink
    |>.takes [null] missing |>.takes [null, any] missing
    |>.vectorize 1 [0] |>.vectorize 2 [0],
  define "date"
    |>.takes [date] first |>.takes [string] dateOfText |>.takes [link] dateOfLink
    |>.takes [string, string] dateOfPattern
    |>.takes [any] missing |>.takes [any, any] missing
    |>.vectorize 1 [0] |>.vectorize 2 [0],
  define "dur"
    |>.takes [duration] first |>.takes [string] durationOfText |>.takes [any] missing
    |>.vectorize 1 [0],
  define "number"
    |>.takes [number] first |>.takes [string] numberOfText |>.takes [any] missing
    |>.vectorize 1 [0],
  define "string" |>.takes [any] textOf]

end DocQuery.Builtin
