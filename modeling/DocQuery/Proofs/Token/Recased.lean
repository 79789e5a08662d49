import DocQuery.Proofs.Text.AsciiCase
import DocQuery.Proofs.Token.Local

/-!
Letters behind a token in another case. A token may look at characters behind its own ones, to see whether it
goes on, but it does not tell a letter from its capital there. Only the text between parentheses behind a name
is looked at as it is, because a date or a span may be written in it.
-/

namespace DocQuery

open Text

namespace Token

variable {now : Date} {c d : Char} {word more more' : List Char} {t : Token}

theorem isNameStart_toLower (c : Char) : isNameStart c.toLower = isNameStart c := apply_toLower (by decide) c

theorem isNamePart_toLower (c : Char) : isNamePart c.toLower = isNamePart c := apply_toLower (by decide) c

theorem isTagPart_toLower (c : Char) : isTagPart c.toLower = isTagPart c := apply_toLower (by decide) c

theorem isDigit_toLower (c : Char) : c.toLower.isDigit = c.isDigit :=
  apply_toLower (f := Char.isDigit) (by decide) c

/-- Ends of texts that differ in the case of letters, but not in what stands in parentheses behind a name. -/
structure Recased (more more' : List Char) : Prop where
  letters : more.map Char.toLower = more'.map Char.toLower
  parens : ∀ front, parenthesized? (front ++ more) = parenthesized? (front ++ more')

theorem Recased.symm (h : Recased more more') : Recased more' more :=
  ⟨h.letters.symm, fun front => (h.parens front).symm⟩

/-- The same characters in front keep two texts recased. -/
theorem Recased.append (h : Recased more more') (front : List Char) :
    Recased (front ++ more) (front ++ more') := by
  refine ⟨?_, fun further => ?_⟩
  · rw [List.map_append, List.map_append, h.letters]
  · rw [← List.append_assoc, ← List.append_assoc, h.parens]

/-- A character that is no letter stays where it is. -/
theorem exists_cons_of_map_toLower (hMark : ∀ c : Char, c.toLower = d ↔ c = d)
    (hLetters : (d :: more).map Char.toLower = more'.map Char.toLower) :
    ∃ rest, more' = d :: rest ∧ more.map Char.toLower = rest.map Char.toLower := by
  rw [List.map_cons, (hMark d).mpr rfl] at hLetters
  obtain ⟨e, rest, rfl, hHead, hRest⟩ := List.map_eq_cons_iff.mp hLetters.symm
  rw [(hMark e).mp hHead]
  exact ⟨rest, rfl, hRest.symm⟩

/-- A character without case stands in front of both texts. -/
theorem Recased.head?_eq_some (h : Recased more more') (hMark : ∀ c : Char, c.toLower = d ↔ c = d)
    (hHead : more.head? = some d) : more'.head? = some d := by
  obtain ⟨rest, rfl⟩ := List.head?_eq_some_iff.mp hHead
  obtain ⟨rest', rfl, -⟩ := exists_cons_of_map_toLower hMark h.letters
  rfl

/-- A stretch that ends within the word is the same before either text. -/
theorem Recased.takeWhile_append {p : Char → Bool} (hCase : ∀ c : Char, p c.toLower = p c)
    (h : Recased more more') (hWithin : ((word ++ more).takeWhile p).length ≤ word.length) :
    (word ++ more').takeWhile p = (word ++ more).takeWhile p := by
  have hMap (cs : List Char) : ((cs.map Char.toLower).takeWhile p).length = (cs.takeWhile p).length := by
    rw [takeWhile_map_toLower hCase, List.length_map]
  have hLength : ((word ++ more').takeWhile p).length = ((word ++ more).takeWhile p).length := by
    rw [← hMap, (h.append word).symm.letters, hMap]
  rw [takeWhile_of_append hWithin, takeWhile_of_append (hLength.trans_le hWithin)]

/-- A token that begins with a character is read again where the letters behind it change their case. -/
def IgnoresCase (now : Date) (c : Char) : Prop :=
  ∀ {word more more' t}, Recased more more' →
    readFront now (c :: (word ++ more)) = .ok (t, word.length + 1) →
    readFront now (c :: (word ++ more')) = .ok (t, word.length + 1)

/-- A symbol of one character is read alike before either text. -/
theorem ignoresCase_single {s : Symbol} (hRead : ∀ cs, readFront now (c :: cs) = .ok (.symbol s, 1)) :
    IgnoresCase now c :=
  fun _ hFront => (hRead _).trans ((hRead _).symm.trans hFront)

/-- A symbol with a longer form is read alike before either text. -/
theorem ignoresCase_double {s s' : Symbol}
    (hDouble : ∀ cs, readFront now (c :: '=' :: cs) = .ok (.symbol s', 2))
    (hSingle : ∀ cs, cs.head? ≠ some '=' → readFront now (c :: cs) = .ok (.symbol s, 1)) :
    IgnoresCase now c := by
  intro word more more' t hSame hFront
  have hMark := toLower_eq_iff (d := '=') (by decide)
  by_cases hHead : (word ++ more).head? = some '='
  · obtain ⟨rest, hRest⟩ := List.head?_eq_some_iff.mp hHead
    obtain ⟨rest', hRest'⟩ := List.head?_eq_some_iff.mp ((hSame.append word).head?_eq_some hMark hHead)
    rw [hRest, hDouble] at hFront
    rw [hRest', hDouble, hFront]
  · have hHead' : (word ++ more').head? ≠ some '=' := mt ((hSame.append word).symm.head?_eq_some hMark) hHead
    rw [hSingle _ hHead'] at *
    exact (hSingle _ hHead).symm.trans hFront

/-- A string is read alike before either text. -/
theorem ignoresCase_string (hRead : ∀ cs, readFront now (c :: cs) = readString c cs) : IgnoresCase now c := by
  intro word more more' t _ hFront
  rw [hRead, readString] at hFront
  split at hFront
  · next body length hBody =>
      cases hFront
      have hAlone := readStringBody?_of_append hBody (Nat.le_refl _)
      rw [hRead, readString, (readStringBody?_append more' hAlone).1]
  · cases hFront

theorem ignoresCase_tag : IgnoresCase now '#' := by
  have hRead (cs : List Char) : readFront now ('#' :: cs) = readTag cs := rfl
  intro word more more' t hSame hFront
  rw [hRead, readTag] at hFront ⊢
  split at hFront
  · cases hFront
  · next hSome =>
      have hLength := congrArg Prod.snd (Except.ok.inj hFront)
      rw [hSame.takeWhile_append isTagPart_toLower (Nat.succ_le_succ_iff.mp hLength.le)]
      exact (if_neg hSome).trans hFront

theorem ignoresCase_bracket : IgnoresCase now '[' := by
  have hLink (cs : List Char) : readFront now ('[' :: '[' :: cs) = readLink false 0 cs := rfl
  have hMark := toLower_eq_iff (d := '[') (by decide)
  intro word more more' t hSame hFront
  by_cases hHead : (word ++ more).head? = some '['
  · obtain ⟨rest, hRest⟩ := List.head?_eq_some_iff.mp hHead
    have hLong : 2 < word.length + 1 := by
      rw [hRest, hLink, ← List.append_nil rest] at hFront
      exact (readLink_of_append hFront).1
    obtain ⟨inside, rfl⟩ := exists_of_head?_append hHead hLong.le
    have hAlone := (readLink_of_append hFront).2 (by simp)
    exact (readLink_append hAlone).2.2 more'
  · have hHead' : (word ++ more').head? ≠ some '[' := mt ((hSame.append word).symm.head?_eq_some hMark) hHead
    rw [readFront_openBracket now _ hHead']
    exact (readFront_openBracket now _ hHead).symm.trans hFront

/-- An exclamation mark, with what may follow it, is read alike before either text. -/
theorem ignoresCase_bang : IgnoresCase now '!' := by
  have hLink (cs : List Char) : readFront now ('!' :: '[' :: '[' :: cs) = readLink true 1 cs := rfl
  have hDouble (cs : List Char) : readFront now ('!' :: '=' :: cs) = .ok (.symbol .notEqual, 2) := rfl
  have hBracket := toLower_eq_iff (d := '[') (by decide)
  have hEqual := toLower_eq_iff (d := '=') (by decide)
  intro word more more' t hSame hFront
  by_cases hOpen : ∃ rest, word ++ more = '[' :: '[' :: rest
  · obtain ⟨rest, hRest⟩ := hOpen
    have hLong : 3 < word.length + 1 := by
      rw [hRest, hLink, ← List.append_nil rest] at hFront
      exact (readLink_of_append hFront).1
    obtain ⟨inside, rfl⟩ := exists_of_head?_append (List.head?_eq_some_iff.mpr ⟨_, hRest⟩) (by omega)
    have hInner := (List.cons.inj hRest).2
    rw [List.length_cons] at hLong
    obtain ⟨inside, rfl⟩ := exists_of_head?_append (List.head?_eq_some_iff.mpr ⟨_, hInner⟩) (by omega)
    have hAlone := (readLink_of_append hFront).2 (by simp)
    exact (readLink_append hAlone).2.2 more'
  by_cases hHead : (word ++ more).head? = some '='
  · obtain ⟨rest, hRest⟩ := List.head?_eq_some_iff.mp hHead
    obtain ⟨rest', hRest'⟩ := List.head?_eq_some_iff.mp ((hSame.append word).head?_eq_some hEqual hHead)
    rw [hRest, hDouble] at hFront
    rw [hRest', hDouble, hFront]
  · have hHead' : (word ++ more').head? ≠ some '=' := mt ((hSame.append word).symm.head?_eq_some hEqual) hHead
    have hOpen' : ¬∃ rest, word ++ more' = '[' :: '[' :: rest := by
      rintro ⟨rest, hRest⟩
      have hLetters := (hSame.append word).symm.letters
      rw [hRest] at hLetters
      obtain ⟨behind, hFirst, hBehind⟩ := exists_cons_of_map_toLower hBracket hLetters
      obtain ⟨_, rfl, -⟩ := exists_cons_of_map_toLower hBracket hBehind
      exact hOpen ⟨_, hFirst⟩
    rw [readFront_bang now _ hOpen' hHead']
    exact (readFront_bang now _ hOpen hHead).symm.trans hFront

/-- A word is read alike before either text, since both close the same parentheses. -/
theorem ignoresCase_word (hStart : isNameStart c = true) : IgnoresCase now c := by
  intro word more more' t hSame hFront
  rw [readFront_of_isNameStart hStart, ← List.cons_append, readWord] at hFront ⊢
  have hName : ((c :: word ++ more).takeWhile isNamePart).length ≤ (c :: word).length := by
    rw [List.length_cons]
    split at hFront
    · next result hTemporal =>
        cases hFront
        obtain ⟨body, -, hLength, -⟩ := readTemporal?_eq_some hTemporal
        rw [String.length_ofList] at hLength
        omega
    · exact (congrArg Prod.snd (Except.ok.inj hFront)).le
  have hDrop (tail : List Char) : (c :: word ++ tail).drop ((c :: word ++ more).takeWhile isNamePart).length =
      (c :: word).drop ((c :: word ++ more).takeWhile isNamePart).length ++ tail :=
    List.drop_append_of_le_length hName
  rw [hDrop, readTemporal?_congr (hSame.parens _)] at hFront
  rw [hSame.takeWhile_append isNamePart_toLower hName, hDrop]
  exact hFront

theorem length_fractionDigits_map (cs : List Char) :
    (fractionDigits (cs.map Char.toLower)).length = (fractionDigits cs).length := by
  have hPoint := toLower_eq_iff (d := '.') (by decide)
  cases cs with
  | nil => rfl
  | cons d cs =>
      by_cases hHead : d = '.'
      · subst hHead
        show ((cs.map Char.toLower).takeWhile Char.isDigit).length = (cs.takeWhile Char.isDigit).length
        rw [takeWhile_map_toLower isDigit_toLower, List.length_map]
      · simp [fractionDigits, hHead, hPoint]

/-- A fraction that ends within the word is the same before either text. -/
theorem Recased.fractionDigits_append (h : Recased more more')
    (hWithin : (if (fractionDigits (word ++ more)).isEmpty then 0
      else (fractionDigits (word ++ more)).length + 1) ≤ word.length) :
    fractionDigits (word ++ more') = fractionDigits (word ++ more) := by
  have hLength : (fractionDigits (word ++ more')).length = (fractionDigits (word ++ more)).length := by
    rw [← length_fractionDigits_map, (h.append word).symm.letters, length_fractionDigits_map]
  have hEmpty : (fractionDigits (word ++ more')).isEmpty = (fractionDigits (word ++ more)).isEmpty := by
    rw [Bool.eq_iff_iff, List.isEmpty_iff_length_eq_zero, List.isEmpty_iff_length_eq_zero, hLength]
  rw [fractionDigits_of_append more hWithin, fractionDigits_of_append more' (by rwa [hEmpty, hLength])]

/-- A number is read alike before either text. -/
theorem ignoresCase_number (hDigit : c.isDigit = true) : IgnoresCase now c := by
  intro word more more' t hSame hFront
  rw [readFront_of_isDigit hDigit, ← List.cons_append, readNumber_eq] at hFront ⊢
  have hTaken := congrArg Prod.snd (Except.ok.inj hFront)
  dsimp only at hTaken
  have hWhole : ((c :: word ++ more).takeWhile Char.isDigit).length ≤ (c :: word).length :=
    (Nat.le_add_right ..).trans hTaken.le
  have hDigits := hSame.takeWhile_append isDigit_toLower hWhole
  have hFraction : fractionDigits ((c :: word ++ more').dropWhile Char.isDigit) =
      fractionDigits ((c :: word ++ more).dropWhile Char.isDigit) := by
    rw [← drop_length_takeWhile, ← drop_length_takeWhile, hDigits, List.drop_append_of_le_length hWhole,
      List.drop_append_of_le_length hWhole]
    rw [← drop_length_takeWhile, List.drop_append_of_le_length hWhole] at hTaken
    apply hSame.fractionDigits_append
    rw [List.length_drop, List.length_cons]
    omega
  rw [hDigits, hFraction]
  exact hFront

/-- Whatever is read from the word is read from it before the other text too. -/
theorem readFront_recased (hSame : Recased more more')
    (hFront : readFront now (c :: (word ++ more)) = .ok (t, word.length + 1)) :
    readFront now (c :: (word ++ more')) = .ok (t, word.length + 1) := by
  refine front_cases now ignoresCase_single ignoresCase_double ignoresCase_string ignoresCase_tag
    ignoresCase_bracket ignoresCase_bang ignoresCase_word ignoresCase_number (fun hNone => ?_) c hSame hFront
  intro word more more' t _ hFront
  cases (hNone _).symm.trans hFront

end Token
end DocQuery
