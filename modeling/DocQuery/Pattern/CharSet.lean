import DocQuery.Text.Table.Case
import DocQuery.Text.Table.Category
import DocQuery.Text.Table.Letters
import DocQuery.Text.Table.Script

/-!
Sets of characters in text patterns: ascending runs of code points that do not touch, closed under
union, complement and the other set operations.
-/

namespace DocQuery.Pattern

open DocQuery.Text

/-- A set of characters, as ascending runs. -/
abbrev CharSet := List CodeRange

namespace CharSet

def maxCode : Nat := 0x10FFFF

/-- Joins runs that overlap or touch, given runs sorted by their first code point. -/
def joinRuns : List CodeRange → CharSet
  | [] => []
  | r :: rest =>
    match joinRuns rest with
    | [] => [r]
    | s :: more =>
      if s.first ≤ r.last + 1 then ⟨r.first, max r.last s.last⟩ :: more else r :: s :: more

def ofRuns (runs : List CodeRange) : CharSet :=
  joinRuns ((runs.filter fun r => r.first ≤ r.last).mergeSort fun r s => r.first ≤ s.first)

def single (c : Char) : CharSet := [⟨c.toNat, c.toNat⟩]

def union (a b : CharSet) : CharSet := ofRuns (a ++ b)

/-- The code points from `start` on that are in no run. -/
def gaps (start : Nat) : CharSet → CharSet
  | [] => if start ≤ maxCode then [⟨start, maxCode⟩] else []
  | r :: rest =>
    if start < r.first then ⟨start, r.first - 1⟩ :: gaps (r.last + 1) rest
    else gaps (r.last + 1) rest

def complement (a : CharSet) : CharSet := gaps 0 a

def inter (a b : CharSet) : CharSet := complement (union (complement a) (complement b))

def diff (a b : CharSet) : CharSet := inter a (complement b)

def symmDiff (a b : CharSet) : CharSet := diff (union a b) (inter a b)

def hasCode (a : CharSet) (code : Nat) : Bool := a.any fun r => r.first ≤ code && code ≤ r.last

/-- Every character that changes in case folding, with its image. -/
def foldPairs : List (Nat × Nat) :=
  Table.fold.toList.flatMap fun run =>
    (List.range ((run.range.last - run.range.first) / run.step + 1)).map fun k =>
      (run.range.first + k * run.step, run.target + k * run.step)

/-- The set with all characters that differ from one of its own in case only. -/
def foldCase (a : CharSet) : CharSet :=
  let table := a.toArray
  let has (code : Nat) : Bool := (searchRuns table id code (table.size + 1) 0 table.size).isSome
  let images := (foldPairs.filter fun (c, image) => has c || has image).map Prod.snd
  let partners := foldPairs.filter fun (_, image) => images.contains image
  if images.isEmpty then a
  else ofRuns (a ++ (images.map fun code => ⟨code, code⟩) ++
    partners.map fun (code, _) => ⟨code, code⟩)

def ofTable (table : RangeTable) : CharSet := table.toList

def ofCategories (names : List String) : CharSet :=
  ofRuns (names.flatMap fun name => ((Table.categories.lookup name).getD #[]).toList)

def digit : CharSet := ofTable Table.categoryNd

def space : CharSet := ofTable Table.blank

/-- The characters of words: letters, marks, digits, connectors and joiners. -/
def word : CharSet :=
  ofRuns (Table.alphabetic.toList ++ ofCategories ["Mc", "Me", "Mn", "Nd", "Pc"] ++
    Table.joinControl.toList)

def asciiDigit : CharSet := [⟨48, 57⟩]

def asciiSpace : CharSet := [⟨9, 13⟩, ⟨32, 32⟩]

def asciiWord : CharSet := [⟨48, 57⟩, ⟨65, 90⟩, ⟨95, 95⟩, ⟨97, 122⟩]

/-- The named sets of the first 128 characters that stand as `[:name:]` in brackets. -/
def ofAsciiName? : String → Option CharSet
  | "alnum" => some [⟨48, 57⟩, ⟨65, 90⟩, ⟨97, 122⟩]
  | "alpha" => some [⟨65, 90⟩, ⟨97, 122⟩]
  | "ascii" => some [⟨0, 127⟩]
  | "blank" => some [⟨9, 9⟩, ⟨32, 32⟩]
  | "cntrl" => some [⟨0, 31⟩, ⟨127, 127⟩]
  | "digit" => some asciiDigit
  | "graph" => some [⟨33, 126⟩]
  | "lower" => some [⟨97, 122⟩]
  | "print" => some [⟨32, 126⟩]
  | "punct" => some [⟨33, 47⟩, ⟨58, 64⟩, ⟨91, 96⟩, ⟨123, 126⟩]
  | "space" => some asciiSpace
  | "upper" => some [⟨65, 90⟩]
  | "word" => some asciiWord
  | "xdigit" => some [⟨48, 57⟩, ⟨65, 70⟩, ⟨97, 102⟩]
  | _ => none

/-- A property name without case, blanks, dashes and underscores, and without a leading `is`. -/
def plainName (name : String) : String :=
  let cs := (name.toList.filter fun c => !(c = ' ' || c = '_' || c = '-')).map Char.toLower
  match cs with
  | 'i' :: 's' :: c :: rest => String.ofList (c :: rest)
  | _ => String.ofList cs

def categoryNames? : String → Option (List String)
  | "c" | "other" => some ["Cc", "Cf", "Co"]
  | "cc" | "control" | "cntrl" => some ["Cc"]
  | "cf" | "format" => some ["Cf"]
  | "co" | "privateuse" => some ["Co"]
  | "l" | "letter" => some ["Ll", "Lm", "Lo", "Lt", "Lu"]
  | "lc" | "casedletter" => some ["Ll", "Lt", "Lu"]
  | "ll" | "lowercaseletter" => some ["Ll"]
  | "lm" | "modifierletter" => some ["Lm"]
  | "lo" | "otherletter" => some ["Lo"]
  | "lt" | "titlecaseletter" => some ["Lt"]
  | "lu" | "uppercaseletter" => some ["Lu"]
  | "m" | "mark" | "combiningmark" => some ["Mc", "Me", "Mn"]
  | "mc" | "spacingmark" => some ["Mc"]
  | "me" | "enclosingmark" => some ["Me"]
  | "mn" | "nonspacingmark" => some ["Mn"]
  | "n" | "number" => some ["Nd", "Nl", "No"]
  | "nd" | "decimalnumber" | "digit" => some ["Nd"]
  | "nl" | "letternumber" => some ["Nl"]
  | "no" | "othernumber" => some ["No"]
  | "p" | "punctuation" | "punct" => some ["Pc", "Pd", "Pe", "Pf", "Pi", "Po", "Ps"]
  | "pc" | "connectorpunctuation" => some ["Pc"]
  | "pd" | "dashpunctuation" => some ["Pd"]
  | "pe" | "closepunctuation" => some ["Pe"]
  | "pf" | "finalpunctuation" => some ["Pf"]
  | "pi" | "initialpunctuation" => some ["Pi"]
  | "po" | "otherpunctuation" => some ["Po"]
  | "ps" | "openpunctuation" => some ["Ps"]
  | "s" | "symbol" => some ["Sc", "Sk", "Sm", "So"]
  | "sc" | "currencysymbol" => some ["Sc"]
  | "sk" | "modifiersymbol" => some ["Sk"]
  | "sm" | "mathsymbol" => some ["Sm"]
  | "so" | "othersymbol" => some ["So"]
  | "z" | "separator" => some ["Zl", "Zp", "Zs"]
  | "zl" | "lineseparator" => some ["Zl"]
  | "zp" | "paragraphseparator" => some ["Zp"]
  | "zs" | "spaceseparator" => some ["Zs"]
  | _ => none

def ofCategoryName? (name : String) : Option CharSet :=
  match name with
  | "any" => some [⟨0, maxCode⟩]
  | "ascii" => some [⟨0, 127⟩]
  | "assigned" => some (ofCategories (Table.categories.map Prod.fst))
  | "cn" | "unassigned" => some (complement (ofCategories (Table.categories.map Prod.fst)))
  | "c" | "other" =>
    some (complement (ofCategories ((Table.categories.map Prod.fst).filter fun name =>
      !(["Cc", "Cf", "Co"].contains name))))
  | _ => (categoryNames? name).map ofCategories

def ofScriptName? (name : String) : Option CharSet :=
  (Table.scripts.lookup name).map fun runs => ofTable (RangeTable.ofText runs)

def ofPropertyName? : String → Option CharSet
  | "alphabetic" | "alpha" => some (ofTable Table.alphabetic)
  | "lowercase" | "lower" => some (ofTable Table.lowercase)
  | "uppercase" | "upper" => some (ofTable Table.uppercase)
  | "whitespace" | "wspace" | "space" => some (ofTable Table.blank)
  | "cased" => some (ofTable Table.cased)
  | "caseignorable" | "ci" => some (ofTable Table.caseIgnorable)
  | "graphemeextend" | "grext" => some (ofTable Table.graphemeExtend)
  | "joincontrol" | "joinc" => some (ofTable Table.joinControl)
  | _ => none

def ofName? (name : String) : Option CharSet :=
  let plain := plainName name
  (ofPropertyName? plain).orElse fun _ =>
    (ofCategoryName? plain).orElse fun _ => ofScriptName? plain

def ofNamedValue? (property value : String) : Option CharSet :=
  match plainName property with
  | "gc" | "generalcategory" => ofCategoryName? (plainName value)
  | "sc" | "script" => ofScriptName? (plainName value)
  | "scx" | "scriptextensions" => ofScriptName? (plainName value)
  | _ => none

end CharSet

end DocQuery.Pattern
