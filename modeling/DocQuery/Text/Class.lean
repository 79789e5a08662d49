import DocQuery.Text.Table.Letters
import DocQuery.Text.Table.Category

/-!
Character classes. Characters below 128 are decided directly, all others by the tables of the
standard, so that statements about plain texts need no table.
-/

namespace DocQuery.Text

def isAlphabetic (c : Char) : Bool :=
  if c.toNat < 128 then c.isAlpha else Table.alphabetic.contains c

/-- Whether a character is a number of any kind: digit, letter number or other number. -/
def isNumeric (c : Char) : Bool :=
  if c.toNat < 128 then c.isDigit
  else Table.categoryNd.contains c || Table.categoryNl.contains c || Table.categoryNo.contains c

def isAlphanumeric (c : Char) : Bool := isAlphabetic c || isNumeric c

def isBlank (c : Char) : Bool :=
  if c.toNat < 128 then c = ' ' || (9 ≤ c.toNat && c.toNat ≤ 13) else Table.blank.contains c

/-- The general categories whose characters are not shown as they are: controls, format characters,
unassigned and private ones, and separators other than the space. -/
def isPrintable (c : Char) : Bool :=
  if c.toNat < 127 then 32 ≤ c.toNat
  else Table.categories.any fun (name, set) =>
    !(["Cc", "Cf", "Co", "Zl", "Zp", "Zs"].contains name) && set.contains c

/-- Whether a character extends the character before it. -/
def extendsPrevious (c : Char) : Bool :=
  if c.toNat < 128 then false else Table.graphemeExtend.contains c

end DocQuery.Text
