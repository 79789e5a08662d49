import DocQuery.Proofs.Text.LowerCase

/-!
Texts that differ in the case of the letters `a` to `z` only. They have the same lower case: no test of a
single character on the way to it tells a small letter from its capital.
-/

namespace DocQuery.Text

/-- Whether a table has the capitals among the first 128 characters where it has their small letters. -/
def RangeTable.ignoresCase (table : RangeTable) : Bool :=
  (List.range 128).all fun code =>
    table.contains (Char.ofNat code).toLower == table.contains (Char.ofNat code)

section Tables

set_option maxRecDepth 40000

/-- The letters `A` to `Z` are cased as their small forms are, and ignored as they are. -/
theorem ignoresCase_cased : Table.cased.ignoresCase = true ∧ Table.caseIgnorable.ignoresCase = true := by
  unfold Table.cased Table.caseIgnorable RangeTable.ofText words
  constructor
  · refine of_ofList (P := fun cs => (RangeTable.ofChars cs).ignoresCase = true) ?_
    decide +kernel
  · refine of_ofList (P := fun cs => (RangeTable.ofChars cs).ignoresCase = true) ?_
    decide +kernel

end Tables

/-! ### Single characters -/

/-- A table that ignores case holds a letter as it holds its small form. -/
theorem RangeTable.contains_toLower {table : RangeTable} (hTable : table.ignoresCase = true) (c : Char) :
    table.contains c.toLower = table.contains c := by
  refine apply_toLower (f := table.contains) (fun code hCode => ?_) c
  exact beq_iff_eq.mp (List.all_eq_true.mp hTable code (List.mem_range.mpr hCode))

theorem lowerChar_toLower (c : Char) : lowerChar c.toLower = lowerChar c :=
  apply_toLower (by decide) c

/-- A character that is neither a capital nor a small letter is the small form of itself alone. -/
theorem toLower_eq_iff {d : Char}
    (hAscii : ∀ code < 128, decide ((Char.ofNat code).toLower = d) = decide (Char.ofNat code = d)) (c : Char) :
    c.toLower = d ↔ c = d := by
  have hSame := apply_toLower (f := fun c => decide (c = d)) hAscii c
  rwa [decide_eq_decide] at hSame

/-! ### Texts -/

section Tests

variable {p : Char → Bool} (hCase : ∀ c : Char, p c.toLower = p c) (cs : List Char)

include hCase

theorem takeWhile_map_toLower : (cs.map Char.toLower).takeWhile p = (cs.takeWhile p).map Char.toLower := by
  have hSame : p ∘ Char.toLower = p := funext hCase
  rw [List.takeWhile_map, hSame]

theorem dropWhile_map_toLower : (cs.map Char.toLower).dropWhile p = (cs.dropWhile p).map Char.toLower := by
  have hSame : p ∘ Char.toLower = p := funext hCase
  rw [List.dropWhile_map, hSame]

end Tests

theorem meetsCased_map_toLower (cs : List Char) : meetsCased (cs.map Char.toLower) = meetsCased cs := by
  rw [meetsCased, meetsCased, dropWhile_map_toLower (RangeTable.contains_toLower ignoresCase_cased.2)]
  cases cs.dropWhile Table.caseIgnorable.contains with
  | nil => rfl
  | cons c ending => exact RangeTable.contains_toLower ignoresCase_cased.1 c

/-- A text in small letters has the same lower case, whatever stands before it. -/
theorem lowerFrom_map_toLower (before cs : List Char) :
    lowerFrom (before.map Char.toLower) (cs.map Char.toLower) = lowerFrom before cs := by
  have hSigma := toLower_eq_iff (d := 'Σ') (by decide)
  induction cs generalizing before with
  | nil => rfl
  | cons c cs ih =>
      have hImage : imageOf (before.map Char.toLower) c.toLower (cs.map Char.toLower) =
          imageOf before c cs := by
        simp only [imageOf, hSigma, meetsCased_map_toLower, lowerChar_toLower]
      rw [List.map_cons, lowerFrom_cons, lowerFrom_cons, hImage, ← List.map_cons, ih]

theorem sameUpToAsciiCase_iff {a b : String} :
    sameUpToAsciiCase a b = true ↔ a.toList.map Char.toLower = b.toList.map Char.toLower :=
  beq_iff_eq

/-- Texts that differ in the case of `A` to `Z` only have the same lower case. -/
theorem lower_eq_of_sameUpToAsciiCase {a b : String} (h : sameUpToAsciiCase a b = true) :
    lower a = lower b := by
  have hSame := sameUpToAsciiCase_iff.mp h
  rw [lower, lower, ← lowerFrom_map_toLower [] a.toList, ← lowerFrom_map_toLower [] b.toList, hSame]

theorem length_eq_of_sameUpToAsciiCase {a b : String} (h : sameUpToAsciiCase a b = true) :
    a.length = b.length := by
  have hLength := congrArg List.length (sameUpToAsciiCase_iff.mp h)
  rwa [List.length_map, List.length_map, String.length_toList, String.length_toList] at hLength

def smallLetters (text : String) : String := String.ofList (text.toList.map Char.toLower)

/-- Texts have the same small letters when they differ in the case of `A` to `Z` only. -/
theorem smallLetters_eq_iff {a b : String} :
    smallLetters a = smallLetters b ↔ sameUpToAsciiCase a b = true := by
  rw [smallLetters, smallLetters, String.ofList_inj, sameUpToAsciiCase_iff]

theorem lower_smallLetters (text : String) : lower (smallLetters text) = lower text := by
  apply lower_eq_of_sameUpToAsciiCase
  rw [sameUpToAsciiCase_iff, smallLetters, String.toList_ofList, List.map_map]
  exact List.map_congr_left fun c _ => apply_toLower (f := Char.toLower) (by decide) c

end DocQuery.Text
