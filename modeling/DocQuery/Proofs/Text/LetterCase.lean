import Mathlib
import DocQuery.Proofs.Text.Class
import DocQuery.Text.LetterCase

/-!
Words whose upper case is written in `A` to `Z`. Beside `A` to `Z` and `a` to `z` only a few letters have
such an image, so that all words with a given upper case can be listed.
-/

namespace DocQuery.Text

/-- The letters beyond `z` whose upper case is written in `A` to `Z`. -/
def foreignLetters : List (Char × List Char) :=
  [('ß', ['S', 'S']), ('ı', ['I']), ('ſ', ['S']), ('ﬀ', ['F', 'F']), ('ﬁ', ['F', 'I']),
    ('ﬂ', ['F', 'L']), ('ﬃ', ['F', 'F', 'I']), ('ﬄ', ['F', 'F', 'L']), ('ﬅ', ['S', 'T']),
    ('ﬆ', ['S', 'T'])]

/-- The small letters whose upper case is written in `A` to `Z`, each with its upper case. -/
def letters : List (Char × List Char) :=
  ((List.range 26).map fun place =>
    (Char.ofNat ('a'.toNat + place), [Char.ofNat ('A'.toNat + place)])) ++ foreignLetters

/-! ### What the tables say -/

/-- The runs that are written in some characters. -/
def CaseTable.ofChars (cs : List Char) : CaseTable :=
  (((cs.splitOnP fun c => c == ' ' || c == '\n').filter (!·.isEmpty)).map CaseRun.ofText).toArray

/-- The images of several characters that are written in some characters. -/
def longImagesOfChars (cs : List Char) : List (Char × List Char) :=
  ((cs.splitOnP fun c => c == ' ' || c == '\n').filter (!·.isEmpty)).map fun entry =>
    match cutAt ':' entry with
    | [source, target] =>
      (Char.ofNat (hexValue source), (cutAt ',' target).map fun cs => Char.ofNat (hexValue cs))
    | _ => (Char.ofNat 0, [])

theorem longImagesOfText_eq (text : String) : longImagesOfText text = longImagesOfChars text.toList := by
  unfold longImagesOfText longImagesOfChars words
  rfl

/-- Whether all images of a run are characters beyond the first 128. -/
def CaseRun.staysBeyond (run : CaseRun) : Bool :=
  128 ≤ run.target && (run.target + (run.range.last - run.range.first) < 0xD800 ||
    0xDFFF < run.target && run.target + (run.range.last - run.range.first) < 0x110000)

/-- Whether a run is that of a single foreign letter. -/
def CaseRun.isForeign (run : CaseRun) : Bool :=
  run.range.first == run.range.last &&
    foreignLetters.contains (Char.ofNat run.range.first, [Char.ofNat run.target])

section Tables

set_option maxRecDepth 40000

/-- Images of one character are those of foreign letters, or no letters from `A` to `Z`. -/
theorem toUpper_images :
    Table.toUpper.toList.all (fun run => run.range.last < 128 || run.staysBeyond || run.isForeign) = true ∧
    foreignLetters.all (fun letter =>
      letter.2.length != 1 || [Table.toUpper.apply letter.1] == letter.2) = true := by
  unfold Table.toUpper CaseTable.ofText words
  constructor
  · refine of_ofList (P := fun cs => (CaseTable.ofChars cs).toList.all (fun run =>
      run.range.last < 128 || run.staysBeyond || run.isForeign) = true) ?_
    decide +kernel
  · refine of_ofList (P := fun cs => foreignLetters.all (fun letter =>
      letter.2.length != 1 || [(CaseTable.ofChars cs).apply letter.1] == letter.2) = true) ?_
    decide +kernel

/-- Images of several characters are those of foreign letters, or have other characters in them. -/
theorem toUpperLong_images :
    Table.toUpperLong.all (fun entry =>
      entry.2.any (128 ≤ ·.toNat) || foreignLetters.contains entry) = true ∧
    foreignLetters.all (fun letter => Table.toUpperLong.lookup letter.1 ==
      if letter.2.length = 1 then none else some letter.2) = true := by
  rw [Table.toUpperLong, longImagesOfText_eq]
  constructor
  · refine of_ofList (P := fun cs => (longImagesOfChars cs).all (fun entry =>
      entry.2.any (128 ≤ ·.toNat) || foreignLetters.contains entry) = true) ?_
    decide +kernel
  · refine of_ofList (P := fun cs => foreignLetters.all (fun letter =>
      (longImagesOfChars cs).lookup letter.1 ==
        if letter.2.length = 1 then none else some letter.2) = true) ?_
    decide +kernel

/-- All letters with a capital form in ASCII are alphabetic. -/
theorem alphabetic_letters : letters.all (fun letter => isAlphabetic letter.1) = true := by
  unfold isAlphabetic Table.alphabetic RangeTable.ofText words
  refine of_ofList (P := fun cs => letters.all (fun letter => if letter.1.toNat < 128 then letter.1.isAlpha
    else (RangeTable.ofChars cs).contains letter.1) = true) ?_
  decide +kernel

end Tables

/-! ### Images of single letters -/

theorem toNat_le_of_isUpper {c : Char} (h : c.isUpper = true) : c.toNat ≤ 90 :=
  (of_decide_eq_true h).2

/-- Beyond the first 128 characters nothing has a small form in ASCII. -/
theorem toLower_of_not_ascii {c : Char} (hForeign : ¬c.toNat < 128) : c.toLower = c := by
  apply Char.toLower_eq_of_not_isUpper
  intro hUpper
  have hCode := toNat_le_of_isUpper hUpper
  omega

/-- What tells no capital among the first 128 characters from its small letter tells none at all. -/
theorem apply_toLower {α : Type} {f : Char → α}
    (hAscii : ∀ code < 128, f (Char.ofNat code).toLower = f (Char.ofNat code)) (c : Char) :
    f c.toLower = f c := by
  by_cases hCode : c.toNat < 128
  · exact forall_ascii (P := fun c => f c.toLower = f c) hAscii c hCode
  · rw [toLower_of_not_ascii hCode]

theorem upperChar_toLower (c : Char) : upperChar c.toLower = upperChar c := apply_toLower (by decide) c

/-- The images of a run that stays beyond the first 128 characters are such characters. -/
theorem CaseRun.toNat_ofNat_target {run : CaseRun} (hBeyond : run.staysBeyond = true) {distance : Nat}
    (hDistance : distance ≤ run.range.last - run.range.first) :
    128 ≤ (Char.ofNat (run.target + distance)).toNat := by
  simp only [CaseRun.staysBeyond, Bool.and_eq_true, Bool.or_eq_true, decide_eq_true_eq] at hBeyond
  have hValid : (run.target + distance).isValidChar := by
    show run.target + distance < 55296 ∨ 57343 < run.target + distance ∧ run.target + distance < 1114112
    omega
  rw [Char.toNat_ofNat, if_pos hValid]
  omega

/-- An image of one character lies beyond the first 128 characters, or it is that of a foreign letter. -/
theorem apply_toUpper {c : Char} (hForeign : ¬c.toNat < 128) :
    128 ≤ (Table.toUpper.apply c).toNat ∨ (c, [Table.toUpper.apply c]) ∈ foreignLetters := by
  rw [CaseTable.apply]
  split
  · next run hRun =>
      obtain ⟨hMem, hFirst, hLast⟩ := searchRuns_eq_some hRun
      have hKinds := List.all_eq_true.mp toUpper_images.1 run (Array.mem_toList_iff.mpr hMem)
      rw [Bool.or_eq_true, Bool.or_eq_true, decide_eq_true_eq] at hKinds
      rcases hKinds with (hAscii | hBeyond) | hSingle
      · omega
      · left
        dsimp only
        split
        · exact CaseRun.toNat_ofNat_target hBeyond (by omega)
        · omega
      · right
        rw [CaseRun.isForeign, Bool.and_eq_true, beq_iff_eq] at hSingle
        obtain ⟨hOnly, hLetter⟩ := hSingle
        have hCode : c.toNat = run.range.first := by omega
        simp only [hCode, Nat.sub_self, Nat.zero_mod, if_true, Nat.add_zero]
        rw [← Char.ofNat_toNat c, hCode]
        exact List.contains_iff_mem.mp hLetter
  · exact Or.inl (Nat.le_of_not_lt hForeign)

/-- The capital form of another character is beyond ASCII too, but for a few foreign letters. -/
theorem upperChar_of_not_ascii {c : Char} (hForeign : ¬c.toNat < 128) :
    (∃ d ∈ upperChar c, 128 ≤ d.toNat) ∨ (c, upperChar c) ∈ foreignLetters := by
  rw [upperChar, if_neg hForeign]
  cases hLong : Table.toUpperLong.lookup c with
  | none =>
      rcases apply_toUpper hForeign with hBeyond | hLetter
      · exact Or.inl ⟨_, List.mem_singleton_self _, hBeyond⟩
      · exact Or.inr hLetter
  | some image =>
      obtain ⟨before, after, hTable, _⟩ := List.lookup_eq_some_iff.mp hLong
      have hMem : (c, image) ∈ Table.toUpperLong := by
        rw [hTable]
        exact List.mem_append_right before (List.mem_cons_self ..)
      have hKinds := List.all_eq_true.mp toUpperLong_images.1 (c, image) hMem
      rw [Bool.or_eq_true, List.any_eq_true] at hKinds
      rcases hKinds with ⟨d, hd, hBeyond⟩ | hLetter
      · exact Or.inl ⟨d, hd, of_decide_eq_true hBeyond⟩
      · exact Or.inr (List.contains_iff_mem.mp hLetter)

/-- A letter whose upper case is written in `A` to `Z` is listed in lower case. -/
theorem mem_letters {c : Char} (hUpper : (upperChar c).all Char.isUpper = true) :
    (c.toLower, upperChar c) ∈ letters := by
  by_cases hAscii : c.toNat < 128
  · exact forall_ascii (P := fun c => (upperChar c).all Char.isUpper = true →
      (c.toLower, upperChar c) ∈ letters) (by decide) c hAscii hUpper
  · rw [toLower_of_not_ascii hAscii]
    rcases upperChar_of_not_ascii hAscii with ⟨d, hd, hBeyond⟩ | hLetter
    · have hCode : d.toNat ≤ 90 := toNat_le_of_isUpper (List.all_eq_true.mp hUpper d hd)
      omega
    · exact List.mem_append_right _ hLetter

/-- The capital forms of the foreign letters. -/
theorem upperChar_of_mem_foreignLetters {letter : Char × List Char} (h : letter ∈ foreignLetters) :
    upperChar letter.1 = letter.2 := by
  have hForeign : ¬letter.1.toNat < 128 :=
    (by decide : ∀ letter ∈ foreignLetters, ¬letter.1.toNat < 128) letter h
  have hLong := beq_iff_eq.mp (List.all_eq_true.mp toUpperLong_images.2 letter h)
  have hSingle := List.all_eq_true.mp toUpper_images.2 letter h
  rw [upperChar, if_neg hForeign, hLong]
  split
  · next hLength =>
      simpa [hLength] using hSingle
  · rfl

/-- The capital forms of all letters. -/
theorem upperChar_of_mem_letters {letter : Char × List Char} (h : letter ∈ letters) :
    upperChar letter.1 = letter.2 := by
  rcases List.mem_append.mp h with hPlain | hForeign
  · obtain ⟨place, hPlace, rfl⟩ := List.mem_map.mp hPlain
    exact (by decide : ∀ place ∈ List.range 26,
      upperChar (Char.ofNat ('a'.toNat + place)) = [Char.ofNat ('A'.toNat + place)]) place hPlace
  · exact upperChar_of_mem_foreignLetters hForeign

/-! ### Words with a given upper case -/

/-- The words of `n` letters whose upper case is a given one. -/
def spellings : Nat → List Char → List (List Char)
  | 0, image => if image = [] then [[]] else []
  | n + 1, image => letters.flatMap fun letter =>
    if letter.2 <+: image then (spellings n (image.drop letter.2.length)).map (letter.1 :: ·) else []

/-- A word of one more letter begins with a letter whose capital form begins the image. -/
theorem mem_spellings_succ {n : Nat} {image cs : List Char} :
    cs ∈ spellings (n + 1) image ↔
      ∃ letter ∈ letters, ∃ rest left, cs = letter.1 :: left ∧ image = letter.2 ++ rest ∧
        left ∈ spellings n rest := by
  rw [spellings, List.mem_flatMap]
  refine exists_congr fun letter => and_congr_right fun _ => ?_
  constructor
  · intro h
    split at h
    · next hPrefix =>
        obtain ⟨left, hLeft, rfl⟩ := List.mem_map.mp h
        exact ⟨_, left, rfl, List.prefix_append_drop hPrefix, hLeft⟩
    · cases h
  · rintro ⟨rest, left, rfl, rfl, hLeft⟩
    rw [if_pos (List.prefix_append letter.2 rest), List.drop_left]
    exact List.mem_map_of_mem hLeft

/-- The spellings of an image have it as their upper case. -/
theorem flatMap_upperChar_of_mem_spellings {n : Nat} {image cs : List Char} (h : cs ∈ spellings n image) :
    cs.flatMap upperChar = image := by
  induction n generalizing image cs with
  | zero =>
      rw [spellings] at h
      split at h
      · next hEmpty =>
          rw [List.mem_singleton.mp h, hEmpty]
          rfl
      · cases h
  | succ n ih =>
      obtain ⟨letter, hLetter, rest, left, rfl, rfl, hLeft⟩ := mem_spellings_succ.mp h
      rw [List.flatMap_cons, upperChar_of_mem_letters hLetter, ih hLeft]

/-- A word whose upper case is in ASCII is one of its spellings, but for case. -/
theorem mem_spellings_flatMap {cs : List Char} (hUpper : (cs.flatMap upperChar).all Char.isUpper = true) :
    cs.map Char.toLower ∈ spellings cs.length (cs.flatMap upperChar) := by
  induction cs with
  | nil => exact List.mem_singleton_self _
  | cons c cs ih =>
      rw [List.flatMap_cons, List.all_append, Bool.and_eq_true] at hUpper
      exact mem_spellings_succ.mpr
        ⟨_, mem_letters hUpper.1, _, _, rfl, List.flatMap_cons, ih hUpper.2⟩

/-- No letter has an empty image, so that a word is no longer than its upper case. -/
theorem le_length_of_mem_spellings {n : Nat} {image cs : List Char} (h : cs ∈ spellings n image) :
    n ≤ image.length := by
  induction n generalizing image cs with
  | zero => exact Nat.zero_le _
  | succ n ih =>
      obtain ⟨letter, hLetter, rest, left, rfl, rfl, hLeft⟩ := mem_spellings_succ.mp h
      have hImage : 0 < letter.2.length :=
        (by decide : ∀ letter ∈ letters, 0 < letter.2.length) letter hLetter
      have hRest := ih hLeft
      rw [List.length_append]
      omega

theorem flatMap_upperChar_map_toLower (cs : List Char) :
    (cs.map Char.toLower).flatMap upperChar = cs.flatMap upperChar := by
  simp only [List.flatMap_map, upperChar_toLower]

/-- The listed spellings of a word in `A` to `Z` are, in small letters, all words with that upper case. -/
theorem upper_eq_iff {word image : String} (hUpper : image.toList.all Char.isUpper = true) :
    upper word = image ↔ ∃ n ≤ image.length, word.toList.map Char.toLower ∈ spellings n image.toList := by
  rw [upper, ← String.toList_inj, String.toList_ofList]
  constructor
  · intro hImage
    rw [← hImage] at hUpper ⊢
    have hListed := mem_spellings_flatMap hUpper
    have hLength := le_length_of_mem_spellings hListed
    rw [hImage] at hLength
    exact ⟨_, hLength, hListed⟩
  · rintro ⟨n, _, hListed⟩
    rw [← flatMap_upperChar_map_toLower]
    exact flatMap_upperChar_of_mem_spellings hListed

end DocQuery.Text
