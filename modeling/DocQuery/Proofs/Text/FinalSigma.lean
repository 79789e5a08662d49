import DocQuery.Proofs.Text.LowerCase

/-!
Lower case of a part of a text. Only the capital sigma looks at what stands around it, so that the lower case
of a part stands in the lower case of the whole as long as no sigma of the part looks beyond its ends. Where
one does, a letter put next to the part gives the sigma another form.
-/

namespace DocQuery.Text

/-! ### The search for a character with case -/

section Tables

set_option maxRecDepth 40000

theorem tables_letters : (['a', 'b'].all fun c => Table.cased.contains c) = true ∧
    (['a', 'b'].all fun c => !Table.caseIgnorable.contains c) = true := by
  unfold Table.caseIgnorable Table.cased RangeTable.ofText words
  constructor
  · refine of_ofList (P := fun cs => (['a', 'b'].all fun c => (RangeTable.ofChars cs).contains c) = true) ?_
    decide +kernel
  · refine of_ofList (P := fun cs => (['a', 'b'].all fun c => !(RangeTable.ofChars cs).contains c) = true) ?_
    decide +kernel

end Tables

/-- The search passes over all characters. -/
def Passed (cs : List Char) : Prop := ∀ c ∈ cs, Table.caseIgnorable.contains c = true

variable {cs rest : List Char}

theorem passed_reverse : Passed cs.reverse ↔ Passed cs := by
  simp only [Passed, List.mem_reverse]

/-- Characters that are passed over do not hide what is behind them. -/
theorem meetsCased_append_of_passed (h : Passed cs) : meetsCased (cs ++ rest) = meetsCased rest := by
  rw [meetsCased, meetsCased, List.dropWhile_append_of_pos h]

/-- The search ends in characters that are not all passed over. -/
theorem meetsCased_append_of_not_passed (h : ¬ Passed cs) : meetsCased (cs ++ rest) = meetsCased cs := by
  have hStops : cs.dropWhile Table.caseIgnorable.contains ≠ [] := by
    rwa [Ne, List.dropWhile_eq_nil_iff]
  obtain ⟨c, ending, hEnding⟩ := List.exists_cons_of_ne_nil hStops
  rw [meetsCased, meetsCased, List.dropWhile_append, hEnding]
  rfl

theorem meetsCased_of_passed (h : Passed cs) : meetsCased cs = false := by
  rw [meetsCased, List.dropWhile_eq_nil_iff.mpr h]

theorem meetsCased_letter {letter : Char} (h : letter ∈ ['a', 'b']) : meetsCased [letter] = true := by
  have hCased := List.all_eq_true.mp tables_letters.1 letter h
  have hStops := List.all_eq_true.mp tables_letters.2 letter h
  rw [meetsCased, List.dropWhile_cons_of_neg (by simpa using hStops)]
  exact hCased

/-! ### Lower case within a text -/

/-- Lower case of a part of a text, given the characters before it in reverse and those behind it. -/
def lowerWithin (before : List Char) : List Char → List Char → List Char
  | [], _ => []
  | c :: rest, after => imageOf before c (rest ++ after) ++ lowerWithin (c :: before) rest after

/-- The lower case of a text is that of its front before what follows, and that of the rest behind it. -/
theorem lowerFrom_append (before cs rest : List Char) :
    lowerFrom before (cs ++ rest) = lowerWithin before cs rest ++ lowerFrom (cs.reverse ++ before) rest := by
  induction cs generalizing before with
  | nil => rfl
  | cons c cs ih =>
      rw [List.cons_append, lowerFrom_cons, ih, lowerWithin, List.append_assoc, List.reverse_cons,
        List.append_assoc, List.singleton_append]

theorem lowerWithin_nil (before cs : List Char) : lowerWithin before cs [] = lowerFrom before cs := by
  have hAll := lowerFrom_append before cs []
  rwa [List.append_nil, lowerFrom, List.append_nil, eq_comm] at hAll

/-- Two stretches within a text have their lower cases one behind the other. -/
theorem lowerWithin_append (before cs ds after : List Char) :
    lowerWithin before (cs ++ ds) after =
      lowerWithin before cs (ds ++ after) ++ lowerWithin (cs.reverse ++ before) ds after := by
  induction cs generalizing before with
  | nil => rfl
  | cons c cs ih =>
      rw [List.cons_append, lowerWithin, lowerWithin, ih, List.append_assoc, List.append_assoc,
        List.reverse_cons, List.append_assoc, List.singleton_append]

/-- What stands around a part does not change the length of its lower case. -/
theorem length_lowerWithin (before cs after : List Char) :
    (lowerWithin before cs after).length = (cs.map imageSize).sum := by
  induction cs generalizing before with
  | nil => rfl
  | cons c cs ih =>
      rw [lowerWithin, List.length_append, length_imageOf, ih, List.map_cons, List.sum_cons]

/-! ### Settled sigmas -/

/-- No capital sigma looks beyond the ends: before one that no character with case precedes stands a
character that ends the search, unless a character with case follows; and one that a character with case
precedes is followed by a character that ends the search. -/
def SigmasSettled (cs : List Char) : Prop :=
  ∀ before rest, cs = before ++ 'Σ' :: rest →
    ¬ (Passed before ∧ meetsCased rest = false) ∧ ¬ (meetsCased before.reverse = true ∧ Passed rest)

/-- A capital sigma is a final one behind a cased letter and before none. -/
theorem imageOf_sigma (before rest : List Char) :
    imageOf before 'Σ' rest = [if meetsCased before && !meetsCased rest then 'ς' else 'σ'] := rfl

/-- A settled sigma has the same form wherever the text stands. -/
theorem imageOf_of_settled {before : List Char} (hBefore : ¬ (Passed before ∧ meetsCased rest = false))
    (hBehind : ¬ (meetsCased before.reverse = true ∧ Passed rest)) (near far : List Char) :
    imageOf (before.reverse ++ near) 'Σ' (rest ++ far) = imageOf before.reverse 'Σ' rest := by
  rw [imageOf_sigma, imageOf_sigma]
  by_cases hPassed : Passed before
  · -- A character with case follows, and that settles it.
    have hMeets : meetsCased rest = true := Bool.of_not_eq_false fun hNone => hBefore ⟨hPassed, hNone⟩
    have hStops : ¬ Passed rest := fun h => by
      rw [meetsCased_of_passed h] at hMeets
      cases hMeets
    rw [meetsCased_append_of_not_passed hStops, hMeets, Bool.not_true, Bool.and_false, Bool.and_false]
  · rw [meetsCased_append_of_not_passed (mt passed_reverse.mp hPassed)]
    cases hMeets : meetsCased before.reverse with
    | false => rw [Bool.false_and, Bool.false_and]
    | true => rw [meetsCased_append_of_not_passed fun h => hBehind ⟨hMeets, h⟩]

/-- With settled sigmas, the lower case of a stretch does not depend on what stands around it. -/
theorem lowerWithin_of_settled {before : List Char} (h : SigmasSettled (before ++ cs))
    (near far : List Char) :
    lowerWithin (before.reverse ++ near) cs far = lowerWithin before.reverse cs [] := by
  induction cs generalizing before with
  | nil => rfl
  | cons c cs ih =>
      have hImage : imageOf (before.reverse ++ near) c (cs ++ far) =
          imageOf before.reverse c (cs ++ []) := by
        rw [List.append_nil]
        by_cases hSigma : c = 'Σ'
        · subst hSigma
          obtain ⟨hBefore, hBehind⟩ := h before cs rfl
          exact imageOf_of_settled hBefore hBehind near far
        · rw [imageOf, imageOf, if_neg hSigma, if_neg hSigma]
      have hNext := @ih (before ++ [c]) (by rwa [List.append_assoc, List.singleton_append])
      rw [List.reverse_append, List.reverse_singleton, List.singleton_append, List.cons_append] at hNext
      rw [lowerWithin, lowerWithin, hImage, hNext]

/-- The lower case of a settled text stands in the lower case of every text that it stands in. -/
theorem lowerFrom_of_settled {part text : List Char} (h : SigmasSettled part) (hPart : part <:+: text) :
    lowerFrom [] part <:+: lowerFrom [] text := by
  obtain ⟨before, after, rfl⟩ := hPart
  have hWithin : lowerWithin before.reverse part after = lowerFrom [] part := by
    have hSame := @lowerWithin_of_settled part [] h before.reverse after
    rwa [List.reverse_nil, List.nil_append, lowerWithin_nil] at hSame
  rw [List.append_assoc, lowerFrom_append, lowerFrom_append, List.append_nil, hWithin, ← List.append_assoc]
  exact List.infix_append _ _ _

/-! ### Sigmas that are not settled -/

/-- A sigma with another form makes another lower case. -/
theorem lowerWithin_ne {before near far : List Char}
    (h : imageOf (before.reverse ++ near) 'Σ' (rest ++ far) ≠ imageOf before.reverse 'Σ' rest) :
    lowerWithin near (before ++ 'Σ' :: rest) far ≠ lowerFrom [] (before ++ 'Σ' :: rest) := by
  rw [← lowerWithin_nil, lowerWithin_append, lowerWithin_append, lowerWithin, lowerWithin]
  intro hSame
  have hStart := List.append_inj_right hSame (by rw [length_lowerWithin, length_lowerWithin])
  have hImages := List.append_inj_left hStart (by rw [length_imageOf, length_imageOf])
  rw [List.append_nil, List.append_nil] at hImages
  exact h hImages

/-- One of two letters differs from a given one. -/
theorem exists_letter (c? : Option Char) : ∃ letter ∈ ['a', 'b'], c? ≠ some letter := by
  by_cases hFirst : c? = some 'a'
  · exact ⟨'b', by decide, by rw [hFirst]; decide⟩
  · exact ⟨'a', by decide, hFirst⟩

/-- The two letters are their own lower case everywhere. -/
theorem imageOf_letter {letter : Char} (h : letter ∈ ['a', 'b']) (before after : List Char) :
    imageOf before letter after = [letter] := by
  rcases List.mem_pair.mp h with rfl | rfl <;> rw [imageOf, if_neg (by decide)] <;> rfl

theorem lowerFrom_append_cons_ne_nil (before cs : List Char) (c : Char) (rest : List Char) :
    lowerFrom before (cs ++ c :: rest) ≠ [] := by
  intro hNone
  have hLength := length_lowerFrom before (cs ++ c :: rest)
  have hImage := imageSize_pos c
  rw [hNone, List.map_append, List.sum_append, List.map_cons, List.sum_cons, List.length_nil] at hLength
  omega

/-- A letter put before the text shows a sigma that is not settled towards the start. -/
theorem exists_letter_before {before : List Char} (hPassed : Passed before)
    (hNone : meetsCased rest = false) :
    ∃ letter : Char, ¬ lowerFrom [] (before ++ 'Σ' :: rest) <:+:
      lowerFrom [] (letter :: (before ++ 'Σ' :: rest)) := by
  obtain ⟨letter, hLetter, hOther⟩ := exists_letter (lowerFrom [] (before ++ 'Σ' :: rest)).head?
  refine ⟨letter, fun hInfix => ?_⟩
  have hImages : imageOf (before.reverse ++ [letter]) 'Σ' (rest ++ []) ≠ imageOf before.reverse 'Σ' rest := by
    have hBack := passed_reverse.mpr hPassed
    rw [List.append_nil, imageOf_sigma, imageOf_sigma, meetsCased_append_of_passed hBack,
      meetsCased_letter hLetter, hNone, meetsCased_of_passed hBack]
    decide
  have hChanged := lowerWithin_ne hImages
  rw [lowerWithin_nil] at hChanged
  rw [lowerFrom_cons, imageOf_letter hLetter, List.singleton_append, List.infix_cons_iff] at hInfix
  rcases hInfix with hPrefix | hWhole
  · rcases List.prefix_cons_iff.mp hPrefix with hEmpty | ⟨_, hStart, _⟩
    · exact lowerFrom_append_cons_ne_nil [] before 'Σ' rest hEmpty
    · rw [hStart] at hOther
      exact hOther rfl
  · exact hChanged (hWhole.eq_of_length (by rw [length_lowerFrom, length_lowerFrom])).symm

/-- A letter put behind the text shows a sigma that is not settled towards the end. -/
theorem exists_letter_behind {before : List Char} (hMeets : meetsCased before.reverse = true)
    (hPassed : Passed rest) :
    ∃ letter : Char, ¬ lowerFrom [] (before ++ 'Σ' :: rest) <:+:
      lowerFrom [] ((before ++ 'Σ' :: rest) ++ [letter]) := by
  obtain ⟨letter, hLetter, hOther⟩ := exists_letter (lowerFrom [] (before ++ 'Σ' :: rest)).getLast?
  refine ⟨letter, fun hInfix => ?_⟩
  have hImages : imageOf (before.reverse ++ []) 'Σ' (rest ++ [letter]) ≠ imageOf before.reverse 'Σ' rest := by
    rw [List.append_nil, imageOf_sigma, imageOf_sigma, meetsCased_append_of_passed hPassed,
      meetsCased_letter hLetter, hMeets, meetsCased_of_passed hPassed]
    decide
  have hChanged := lowerWithin_ne hImages
  rw [lowerFrom_append [] (before ++ 'Σ' :: rest), lowerFrom_cons _ letter, imageOf_letter hLetter,
    lowerFrom, List.append_nil, List.infix_concat_iff] at hInfix
  rcases hInfix with hSuffix | hWhole
  · rcases List.suffix_concat_iff.mp hSuffix with hEmpty | ⟨_, hEnd, _⟩
    · exact lowerFrom_append_cons_ne_nil [] before 'Σ' rest hEmpty
    · rw [hEnd, List.getLast?_concat] at hOther
      exact hOther rfl
  · exact hChanged (hWhole.eq_of_length (by rw [length_lowerFrom, length_lowerWithin])).symm

/-- The texts whose lower case stands in the lower case of every text that they stand in are those whose
sigmas are settled. -/
theorem lowerFrom_infix_iff (part : List Char) :
    (∀ text, part <:+: text → lowerFrom [] part <:+: lowerFrom [] text) ↔ SigmasSettled part := by
  refine ⟨fun h before rest hPart => ?_, fun h text hPart => lowerFrom_of_settled h hPart⟩
  subst hPart
  constructor
  · rintro ⟨hPassed, hNone⟩
    obtain ⟨letter, hMissing⟩ := exists_letter_before hPassed hNone
    exact hMissing (h _ (List.suffix_cons _ _).isInfix)
  · rintro ⟨hMeets, hPassed⟩
    obtain ⟨letter, hMissing⟩ := exists_letter_behind hMeets hPassed
    exact hMissing (h _ (List.prefix_append _ _).isInfix)

end DocQuery.Text
