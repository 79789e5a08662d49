import DocQuery.Proofs.Expr.Written
import DocQuery.Proofs.Number.Text
import DocQuery.Proofs.Token.Scan

/-!
Tokens are read back from their texts where nothing or a blank follows.
-/

namespace DocQuery.Token

open Text

/-- The text of a token is read as that token wherever nothing goes on with it. -/
def ReadsBack (t : Token) : Prop :=
  ∃ c within, t.written.toList = c :: within ∧ isBlank c = false ∧
    ∀ now rest, Apart rest → readFront now (c :: within ++ rest) = .ok (t, within.length + 1)

theorem readsBack_symbol (s : Symbol) : ReadsBack (.symbol s) := by
  cases s <;> refine ⟨_, _, rfl, rfl, ?_⟩ <;> rintro now _ (rfl | ⟨cs, rfl⟩) <;> rfl

/-- Between double quotes a string is read back up to its closing quote. -/
theorem readStringBody?_written (s rest : List Char) :
    readStringBody? '"' (s.flatMap writtenChar ++ '"' :: rest) =
      some (s, (s.flatMap writtenChar).length + 1) := by
  induction s with
  | nil => exact readStringBody?_quote rest
  | cons c s ih =>
      rw [List.flatMap_cons, List.append_assoc, List.length_append, writtenChar]
      split
      · next hSpecial =>
          have hUnescape : unescape c = c := by rcases hSpecial with rfl | rfl <;> rfl
          rw [List.cons_append, List.singleton_append, readStringBody?_escape (by decide), ih,
            Option.map_some, hUnescape]
          simp only [List.length_cons, List.length_nil]
          congr 2
          omega
      · next hPlain =>
          obtain ⟨hQuote, hBackslash⟩ := not_or.mp hPlain
          rw [List.singleton_append, readStringBody?_plain hQuote hBackslash, ih, Option.map_some]
          simp only [List.length_cons, List.length_nil]
          congr 2
          omega

theorem readsBack_string (s : String) : ReadsBack (.string s) := by
  refine ⟨'"', s.toList.flatMap writtenChar ++ ['"'], ?_, rfl, fun now rest _ => ?_⟩
  · rw [written, writtenString, String.toList_ofList, List.cons_append]
  · rw [List.cons_append, readFront, List.append_assoc, List.singleton_append, readString,
      readStringBody?_written]
    simp

/-- A text shaped like a name is read back as the token of that word. -/
theorem readsBack_word {t : Token} {c : Char} {within : List Char}
    (hWritten : t.written.toList = c :: within) (hStart : isNameStart c = true)
    (hParts : ∀ part ∈ within, isNamePart part = true) (hToken : ofWord t.written = t) :
    ReadsBack t := by
  refine ⟨c, within, hWritten, isBlank_of_isNameStart hStart, fun now rest hRest => ?_⟩
  have hWord : ∀ part ∈ c :: within, isNamePart part = true :=
    List.forall_mem_cons.mpr ⟨isNamePart_of_isNameStart hStart, hParts⟩
  rw [List.cons_append, readFront_of_isNameStart hStart, ← List.cons_append,
    readWord_apart now hWord hRest, ← hWritten, String.ofList_toList, hToken, hWritten,
    List.length_cons]

/-- A free name is read back. -/
theorem readsBack_name {word : String} (hFree : Expr.IsFreeName word) :
    ReadsBack (.identifier word) := by
  obtain ⟨c, within, hWord, hStart⟩ := hFree.begins
  refine readsBack_word hWord hStart (fun part hPart => ?_) (ofWord_of_ordinary hFree.ordinary)
  exact hFree.goesOn part (hWord ▸ List.mem_cons_of_mem c hPart)

theorem toNat_lt_of_toLower {c : Char} (h : c.toLower.isAlpha = true) : c.toNat < 128 := by
  have hLower : c.toLower.toNat < 128 := by
    simp only [Char.isAlpha, Char.isUpper, Char.isLower, Bool.or_eq_true, Bool.and_eq_true,
      decide_eq_true_eq, ge_iff_le, UInt32.le_iff_toNat_le] at h
    rcases h with h | h
    · exact Nat.lt_of_le_of_lt h.2 (by decide)
    · exact Nat.lt_of_le_of_lt h.2 (by decide)
  rw [Char.toLower] at hLower
  split at hLower
  · next hUpper =>
      have hLast := hUpper.2
      rw [UInt32.le_iff_toNat_le] at hLast
      exact Nat.lt_of_le_of_lt hLast (by decide)
  · exact hLower

/-- In ASCII, lower case is taken letter by letter. -/
theorem lower_eq_ofList {text : String} (hAscii : ∀ c ∈ text.toList, c.toNat < 128) :
    lower text = String.ofList (text.toList.map Char.toLower) := by
  have hFrom {cs : List Char} (hAscii : ∀ c ∈ cs, c.toNat < 128) (before : List Char) :
      lowerFrom before cs = cs.map Char.toLower := by
    induction cs generalizing before with
    | nil => rfl
    | cons c cs ih =>
        obtain ⟨hFirst, hOthers⟩ := List.forall_mem_cons.mp hAscii
        have hSigma : c ≠ 'Σ' := by
          rintro rfl
          exact absurd hFirst (by decide)
        rw [lowerFrom, if_neg hSigma, lowerChar, if_pos hFirst, ih hOthers]
        rfl
  rw [lower, hFrom hAscii]

/-- A reserved word is cut off as a name, although its letters may be of any case. -/
theorem readsBack_reserved {word : String} (hReserved : isReserved word = true) :
    ReadsBack (.identifier word) := by
  obtain ⟨r, hMem, hSame⟩ := List.any_eq_true.mp hReserved
  rw [Text.sameUpToAsciiCase, beq_iff_eq] at hSame
  have hLetters : ∀ c ∈ word.toList, c.toLower.isAlpha = true := by
    rw [← List.forall_mem_map (f := Char.toLower) (P := fun c => c.isAlpha = true), hSame,
      List.forall_mem_map]
    have hAll : reservedWords.all (·.toList.all (·.toLower.isAlpha)) = true := by decide
    exact List.all_eq_true.mp (List.all_eq_true.mp hAll r hMem)
  have hAscii : ∀ c ∈ word.toList, c.toNat < 128 := fun c hc => toNat_lt_of_toLower (hLetters c hc)
  have hStart : ∀ c ∈ word.toList, isNameStart c = true := fun c hc =>
    forall_ascii (P := fun c => c.toLower.isAlpha = true → isNameStart c = true) (by decide) c
      (hAscii c hc) (hLetters c hc)
  have hOrdinary : Text.lower word ∉ ["and", "or", "true", "false", "null"] := by
    rw [lower_eq_ofList hAscii, hSame]
    exact (by decide : ∀ r ∈ reservedWords,
      String.ofList (r.toList.map Char.toLower) ∉ ["and", "or", "true", "false", "null"]) r hMem
  obtain ⟨c, within, hWord⟩ : ∃ c within, word.toList = c :: within := by
    refine List.exists_cons_of_ne_nil fun hNil => ?_
    rw [hNil] at hSame
    exact (by decide : ∀ r ∈ reservedWords, [] ≠ r.toList.map Char.toLower) r hMem hSame
  rw [hWord] at hStart
  exact readsBack_word hWord (hStart c (List.mem_cons_self ..))
    (fun part hPart => isNamePart_of_isNameStart (hStart part (List.mem_cons_of_mem c hPart)))
    (ofWord_of_ordinary hOrdinary)

theorem readsBack_boolean (b : Bool) : ReadsBack (.boolean b) := by
  cases b with
  | false =>
      have hWritten : (written (.boolean false)).toList = ['f', 'a', 'l', 's', 'e'] := by simp [written]
      exact readsBack_word hWritten rfl (List.all_eq_true.mp rfl) (by decide)
  | true =>
      have hWritten : (written (.boolean true)).toList = ['t', 'r', 'u', 'e'] := by simp [written]
      exact readsBack_word hWritten rfl (List.all_eq_true.mp rfl) (by decide)

theorem readsBack_null : ReadsBack .null := by
  have hWritten : (written .null).toList = ['n', 'u', 'l', 'l'] := by simp [written]
  exact readsBack_word hWritten rfl (List.all_eq_true.mp rfl) (by decide)

/-! Numbers. -/

/-- A numeral that is spelled in digits is read as the number it is nearest to. -/
theorem readNumber_spelled {n : Numeral} {whole fraction rest : List Char}
    (h : n.Spelled whole fraction) (hRest : Apart rest) {units : Nat} (hNearest : n.nearest = units)
    (fits : Representable units) :
    readNumber (n.positional.toList ++ rest) =
      .ok (.number (.finite false units fits), n.positional.toList.length) := by
  have hStop : ∀ c ∈ rest.head?, c.isDigit = false := by
    rcases hRest with rfl | ⟨cs, rfl⟩
    · exact nofun
    · rintro _ ⟨⟩
      rfl
  have hValue := Numeral.toNumber_eq false (h.value.trans hNearest) fits (Int.neg_nonpos_of_nonneg (by simp))
  rw [h.text, readNumber]
  by_cases hFraction : fraction = []
  · subst hFraction
    rw [if_pos rfl, List.append_nil, Number.spanDigits_append h.wholeDigits hStop]
    rcases hRest with rfl | ⟨cs, rfl⟩ <;> simp [← hValue]
  · have hPoint : ∀ c ∈ ('.' :: (fraction ++ rest)).head?, c.isDigit = false := by
      rintro _ ⟨⟩
      rfl
    have hSpan := Number.spanDigits_append h.fractionDigits hStop
    rw [Number.spanDigits, Prod.mk.injEq] at hSpan
    rw [if_neg hFraction, List.append_assoc, List.cons_append, Number.spanDigits_append h.wholeDigits hPoint]
    simp [hSpan.1, hValue, hFraction]

/-- A number without a sign is read back from its shortest text. -/
theorem readsBack_number {n : Number} (hFinite : n.isFinite = true) (hMinus : n.hasMinus = false) :
    ReadsBack (.number n) := by
  cases n with
  | nan => cases hFinite
  | infinity negative => cases hFinite
  | finite negative units fits =>
      cases hMinus
      have hNearest := Numeral.nearest_shortest .up fits
      obtain ⟨whole, fraction, hSpelled⟩ := (Number.shortest .up units).exists_spelled
      obtain ⟨c, more, hWhole⟩ := List.exists_cons_of_ne_nil hSpelled.begins
      have hDigit : c.isDigit = true := hSpelled.wholeDigits c (hWhole ▸ List.mem_cons_self ..)
      have hText : (written (.number (.finite false units fits))).toList =
          (Number.shortest .up units).positional.toList := by
        rw [written, Number.text, Number.signText, if_neg Bool.false_ne_true, String.empty_append]
      obtain ⟨within, hFirst⟩ : ∃ within,
          (Number.shortest .up units).positional.toList = c :: within := by
        rw [hSpelled.text, hWhole]
        exact ⟨_, rfl⟩
      refine ⟨c, within, hText.trans hFirst, isBlank_of_isDigit hDigit, fun now rest hRest => ?_⟩
      rw [List.cons_append, readFront_of_isDigit hDigit, ← List.cons_append, ← hFirst,
        readNumber_spelled hSpelled hRest hNearest fits, hFirst, List.length_cons]

end DocQuery.Token

namespace DocQuery.Scan

variable {now : Date}

/-- A token with a blank behind it is cut off. -/
theorem run_readsBack {t : Token} (h : t.ReadsBack) (cs : List Char) (offset : Nat) :
    run now 0 offset (t.written.toList ++ ' ' :: cs) =
      (run now 0 (offset + t.written.toList.length + 1) cs).cons
        ⟨t, offset, offset + t.written.toList.length⟩ := by
  obtain ⟨c, within, hText, hBlank, hFront⟩ := h
  rw [hText, run_token hBlank (hFront now (' ' :: cs) (.inr ⟨cs, rfl⟩)), run_blank, List.length_cons]

end DocQuery.Scan
