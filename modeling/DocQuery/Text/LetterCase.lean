import DocQuery.Text.Table.Letters
import DocQuery.Text.Table.Case

/-!
Lower and upper case of whole texts. A character may have an image of several characters, and the
Greek capital sigma has a form of its own at the end of a word.
-/

namespace DocQuery.Text

def lowerChar (c : Char) : List Char :=
  if c.toNat < 128 then [c.toLower]
  else (Table.toLowerLong.lookup c).getD [Table.toLower.apply c]

def upperChar (c : Char) : List Char :=
  if c.toNat < 128 then [c.toUpper]
  else (Table.toUpperLong.lookup c).getD [Table.toUpper.apply c]

/-- Whether the first character that is not ignored by case rules has case. -/
def meetsCased (cs : List Char) : Bool :=
  match cs.dropWhile Table.caseIgnorable.contains with
  | [] => false
  | c :: _ => Table.cased.contains c

/-- Lower case of the rest of a text, given the characters before it in reverse: a capital sigma
that ends a word becomes a final sigma. -/
def lowerFrom (before : List Char) : List Char → List Char
  | [] => []
  | c :: rest =>
    let image :=
      if c = 'Σ' then [if meetsCased before && !meetsCased rest then 'ς' else 'σ']
      else lowerChar c
    image ++ lowerFrom (c :: before) rest

def lower (text : String) : String := String.ofList (lowerFrom [] text.toList)

def upper (text : String) : String := String.ofList (text.toList.flatMap upperChar)

/-- Equality of two texts up to the case of the letters `a` to `z`. -/
def sameUpToAsciiCase (a b : String) : Bool :=
  a.toList.map Char.toLower == b.toList.map Char.toLower

end DocQuery.Text
