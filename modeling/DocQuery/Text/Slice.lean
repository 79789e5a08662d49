import DocQuery.Text.Class

/-!
Cutting and searching texts as lists of characters.
-/

namespace DocQuery.Text

def trimStart (cs : List Char) : List Char := cs.dropWhile isBlank

def trimEnd (cs : List Char) : List Char := (cs.reverse.dropWhile isBlank).reverse

def trim (cs : List Char) : List Char := trimEnd (trimStart cs)

def trimmed (text : String) : String := String.ofList (trim text.toList)

/-- The parts before and after the first occurrence of a separator. -/
def splitFirst? (separator : Char) (cs : List Char) : Option (List Char × List Char) :=
  match cs.dropWhile (· != separator) with
  | [] => none
  | _ :: after => some (cs.takeWhile (· != separator), after)

/-- The text from after the last occurrence of a separator on; all of it if there is none. -/
def afterLast (separator : Char) (cs : List Char) : List Char :=
  (cs.reverse.takeWhile (· != separator)).reverse

/-- The text before the last occurrence of a separator, if there is one. -/
def beforeLast? (separator : Char) (cs : List Char) : Option (List Char) :=
  match cs.reverse.dropWhile (· != separator) with
  | [] => none
  | _ :: before => some before.reverse

/-- The rest of a text after a given start. -/
def dropStart? (start cs : List Char) : Option (List Char) :=
  if start.isPrefixOf cs then some (cs.drop start.length) else none

/-- The text before a given end. -/
def dropEnd? (ending cs : List Char) : Option (List Char) :=
  (dropStart? ending.reverse cs.reverse).map List.reverse

def occursIn (needle : List Char) : List Char → Bool
  | [] => needle.isEmpty
  | c :: cs => needle.isPrefixOf (c :: cs) || occursIn needle cs

/-- Replaces the occurrences of a non-empty text from left to right; `skip` characters still belong
to the last occurrence. -/
def replaceFrom (needle new : List Char) : Nat → List Char → List Char
  | _, [] => []
  | skip + 1, _ :: cs => replaceFrom needle new skip cs
  | 0, c :: cs =>
    if needle.isPrefixOf (c :: cs) then new ++ replaceFrom needle new (needle.length - 1) cs
    else c :: replaceFrom needle new 0 cs

/-- Replaces every occurrence of a text. The empty text occurs before each character and at the
end. -/
def replace (needle new cs : List Char) : List Char :=
  if needle.isEmpty then new ++ cs.flatMap fun c => c :: new
  else replaceFrom needle new 0 cs

end DocQuery.Text
