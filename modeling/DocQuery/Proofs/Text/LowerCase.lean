import Mathlib
import DocQuery.Proofs.Text.LetterCase

/-!
Lower case of texts. It acts separately on the parts of a text between slashes: the one image that depends
on its surroundings looks no further than a slash, and no other character has a slash in its image. Every
character has an image, so that a text cut out of another has another lower case.
-/

namespace DocQuery.Text

/-! ### What the tables say of the slash -/

section Tables

set_option maxRecDepth 40000

/-- The slash is not passed over in the search for a character with case, and has none itself. -/
theorem contains_slash : Table.caseIgnorable.contains '/' = false ∧ Table.cased.contains '/' = false := by
  unfold Table.caseIgnorable Table.cased RangeTable.ofText words
  constructor
  · refine of_ofList (P := fun cs => (RangeTable.ofChars cs).contains '/' = false) ?_
    decide +kernel
  · refine of_ofList (P := fun cs => (RangeTable.ofChars cs).contains '/' = false) ?_
    decide +kernel

/-- Images of one character stand behind the slash, and longer ones have no slash. -/
theorem images_slash :
    Table.toLower.toList.all (fun run => 47 < run.target) = true ∧
    Table.toLowerLong.all (fun entry => 0 < entry.2.length && !entry.2.contains '/') = true := by
  unfold Table.toLower CaseTable.ofText Table.toLowerLong words
  rw [longImagesOfText_eq]
  constructor
  · refine of_ofList (P := fun cs => (CaseTable.ofChars cs).toList.all (fun run => 47 < run.target) = true) ?_
    decide +kernel
  · refine of_ofList (P := fun cs => (longImagesOfChars cs).all
      (fun entry => 0 < entry.2.length && !entry.2.contains '/') = true) ?_
    decide +kernel

end Tables

/-! ### Images of single characters -/

/-- The lower case of no other character is a slash. -/
theorem toLower_apply_ne_slash {c : Char} (hForeign : ¬c.toNat < 128) : Table.toLower.apply c ≠ '/' := by
  intro hSlash
  have hCode : (Table.toLower.apply c).toNat = 47 := congrArg Char.toNat hSlash
  rw [CaseTable.apply] at hCode
  split at hCode
  · next run hRun =>
      have hMem := (searchRuns_eq_some hRun).1
      have hTarget := of_decide_eq_true
        (List.all_eq_true.mp images_slash.1 run (Array.mem_toList_iff.mpr hMem))
      dsimp only at hCode
      split at hCode
      · rw [Char.toNat_ofNat] at hCode
        split at hCode <;> omega
      · omega
  · omega

/-- A character that is no slash has an image without slashes, and every image has some character. -/
theorem lowerChar_ne_nil_and_not_mem (c : Char) :
    lowerChar c ≠ [] ∧ (c ≠ '/' → '/' ∉ lowerChar c) := by
  by_cases hAscii : c.toNat < 128
  · exact forall_ascii (P := fun c => lowerChar c ≠ [] ∧ (c ≠ '/' → '/' ∉ lowerChar c))
      (by decide) c hAscii
  · rw [lowerChar, if_neg hAscii]
    cases hLong : Table.toLowerLong.lookup c with
    | none =>
        refine ⟨List.cons_ne_nil _ _, fun _ hMem => ?_⟩
        exact toLower_apply_ne_slash hAscii (List.mem_singleton.mp hMem).symm
    | some image =>
        obtain ⟨before, after, hTable, _⟩ := List.lookup_eq_some_iff.mp hLong
        have hMem : (c, image) ∈ Table.toLowerLong := by
          rw [hTable]
          exact List.mem_append_right before (List.mem_cons_self ..)
        have hEntry := List.all_eq_true.mp images_slash.2 (c, image) hMem
        rw [Bool.and_eq_true, decide_eq_true_eq, Bool.not_eq_true', ← Bool.not_eq_true,
          List.contains_iff_mem] at hEntry
        exact ⟨List.ne_nil_of_length_pos hEntry.1, fun _ => hEntry.2⟩

/-! ### Lower case between slashes -/

/-- The image of a character between the characters before it, in reverse, and those behind it. -/
def imageOf (before : List Char) (c : Char) (rest : List Char) : List Char :=
  if c = 'Σ' then [if meetsCased before && !meetsCased rest then 'ς' else 'σ'] else lowerChar c

theorem lowerFrom_cons (before : List Char) (c : Char) (rest : List Char) :
    lowerFrom before (c :: rest) = imageOf before c rest ++ lowerFrom (c :: before) rest := rfl

/-- A slash is its own lower case. -/
theorem imageOf_slash (before rest : List Char) : imageOf before '/' rest = ['/'] := by
  rw [imageOf, if_neg (by decide)]
  rfl

/-- No lower case of another character has a slash in it. -/
theorem slash_not_mem_imageOf {c : Char} (hChar : c ≠ '/') (before rest : List Char) :
    '/' ∉ imageOf before c rest := by
  rw [imageOf]
  split
  · split <;> decide
  · exact (lowerChar_ne_nil_and_not_mem c).2 hChar

/-- The search for a character with case ends at a slash. -/
theorem meetsCased_append_slash (cs rest : List Char) :
    meetsCased (cs ++ '/' :: rest) = meetsCased cs := by
  rw [meetsCased, meetsCased, List.dropWhile_append]
  cases cs.dropWhile Table.caseIgnorable.contains with
  | nil =>
      rw [List.isEmpty_nil, if_pos rfl, List.dropWhile_cons_of_neg (by simp [contains_slash.1])]
      exact contains_slash.2
  | cons c ending => rfl

/-- Behind a slash nothing matters to the lower case before it. -/
theorem imageOf_append_slash (before cs : List Char) (c : Char) (rest : List Char) :
    imageOf before c (cs ++ '/' :: rest) = imageOf before c cs := by
  rw [imageOf, imageOf, meetsCased_append_slash]

/-- What stands before a slash has no bearing on what stands behind it. -/
theorem lowerFrom_of_slash (near far cs : List Char) :
    lowerFrom (near ++ '/' :: far) cs = lowerFrom near cs := by
  induction cs generalizing near with
  | nil => rfl
  | cons c cs ih =>
      rw [lowerFrom_cons, lowerFrom_cons, imageOf, imageOf, meetsCased_append_slash, ← List.cons_append, ih]

/-- Lower case acts separately on both sides of a slash. -/
theorem lowerFrom_append_slash (before cs rest : List Char) :
    lowerFrom before (cs ++ '/' :: rest) = lowerFrom before cs ++ '/' :: lowerFrom [] rest := by
  induction cs generalizing before with
  | nil =>
      rw [List.nil_append, lowerFrom_cons, imageOf_slash]
      exact congrArg ('/' :: ·) (lowerFrom_of_slash [] before rest)
  | cons c cs ih =>
      rw [List.cons_append, lowerFrom_cons, lowerFrom_cons, imageOf_append_slash, ih, List.append_assoc]

/-- A front that lacks a character ends before that character stands for the first time. -/
theorem exists_of_append_eq_append_cons {xs ys image rest : List Char} {c : Char} (hNot : c ∉ xs)
    (h : xs ++ ys = image ++ c :: rest) : ∃ more, image = xs ++ more ∧ ys = more ++ c :: rest := by
  rcases List.append_eq_append_iff.mp h with hMore | ⟨more, rfl, hRest⟩
  · exact hMore
  · cases more with
    | nil => exact ⟨[], by simp, hRest.symm⟩
    | cons d more =>
        rw [(List.cons.inj hRest).1] at hNot
        exact absurd (List.mem_append_right image List.mem_cons_self) hNot

/-- A slash in the lower case of a text is one of the text. -/
theorem exists_of_lowerFrom_eq_append {before cs image rest : List Char}
    (h : lowerFrom before cs = image ++ '/' :: rest) :
    ∃ start ending, cs = start ++ '/' :: ending ∧ lowerFrom before start = image := by
  induction cs generalizing before image with
  | nil =>
      rw [lowerFrom] at h
      simp at h
  | cons c cs ih =>
      rw [lowerFrom_cons] at h
      by_cases hChar : c = '/'
      · subst hChar
        rw [imageOf_slash, List.singleton_append] at h
        cases image with
        | nil => exact ⟨[], cs, rfl, rfl⟩
        | cons d image =>
            obtain ⟨rfl, hRest⟩ := List.cons.inj h
            obtain ⟨start, ending, rfl, hStart⟩ := ih hRest
            exact ⟨'/' :: start, ending, rfl, by rw [lowerFrom_cons, imageOf_slash, hStart]; rfl⟩
      · obtain ⟨more, rfl, hRest⟩ :=
          exists_of_append_eq_append_cons (slash_not_mem_imageOf hChar before cs) h
        obtain ⟨start, ending, rfl, hStart⟩ := ih hRest
        exact ⟨c :: start, ending, rfl, by rw [lowerFrom_cons, imageOf_append_slash, hStart]⟩

/-! ### Lower case of parts -/

def imageSize (c : Char) : Nat := if c = 'Σ' then 1 else (lowerChar c).length

theorem imageSize_pos (c : Char) : 0 < imageSize c := by
  rw [imageSize]
  split
  · decide
  · exact List.length_pos_of_ne_nil (lowerChar_ne_nil_and_not_mem c).1

/-- The lower case of a character has the same length wherever it stands. -/
theorem length_imageOf (before : List Char) (c : Char) (rest : List Char) :
    (imageOf before c rest).length = imageSize c := by
  rw [imageOf, imageSize]
  split <;> rfl

/-- The lower case of a text is as long as those of its characters together. -/
theorem length_lowerFrom (before cs : List Char) :
    (lowerFrom before cs).length = (cs.map imageSize).sum := by
  induction cs generalizing before with
  | nil => rfl
  | cons c cs ih =>
      rw [lowerFrom_cons, List.length_append, length_imageOf, ih, List.map_cons, List.sum_cons]

/-- Every character that is left out makes the lower case shorter. -/
theorem length_lowerFrom_of_sublist {cs ds : List Char} (hPart : cs.Sublist ds) :
    (lowerFrom [] cs).length + ds.length ≤ (lowerFrom [] ds).length + cs.length := by
  rw [length_lowerFrom, length_lowerFrom]
  induction hPart with
  | slnil => exact Nat.le_refl _
  | cons c _ ih =>
      have hImage := imageSize_pos c
      rw [List.map_cons, List.sum_cons, List.length_cons]
      omega
  | cons_cons c _ ih =>
      rw [List.map_cons, List.map_cons, List.sum_cons, List.sum_cons, List.length_cons, List.length_cons]
      omega

/-- What is cut out of a text and has the same lower case is all of the text. -/
theorem eq_of_sublist_of_lower_eq {part text : String} (hPart : part.toList.Sublist text.toList)
    (hLower : lower part = lower text) : part = text := by
  have hLength := length_lowerFrom_of_sublist hPart
  have hSame : lowerFrom [] part.toList = lowerFrom [] text.toList := String.ofList_injective hLower
  rw [hSame] at hLength
  exact String.toList_injective (hPart.eq_of_length_le (Nat.le_of_add_le_add_left hLength))

end DocQuery.Text
