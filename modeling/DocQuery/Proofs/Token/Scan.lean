import Mathlib
import DocQuery.Token.Scan
import DocQuery.Proofs.Text.Class

/-!
What is read at the front of a text, and how the scan of the text goes on behind it.
-/

namespace DocQuery

/-- A word that is shaped like a name. -/
structure IsNameShaped (word : String) : Prop where
  begins : ∃ c cs, word.toList = c :: cs ∧ Token.isNameStart c = true
  goesOn : ∀ c ∈ word.toList, Token.isNamePart c = true

namespace Token

/-- Nothing or a blank, which goes on with no token. -/
def Apart (rest : List Char) : Prop := rest = [] ∨ ∃ cs, rest = ' ' :: cs

/-- A stretch without blanks does not go on in what is put apart. -/
theorem takeWhile_append_apart {p : Char → Bool} (hBlank : p ' ' = false) (cs : List Char)
    {rest : List Char} (hRest : Apart rest) : (cs ++ rest).takeWhile p = cs.takeWhile p := by
  induction cs with
  | nil =>
      rcases hRest with rfl | ⟨more, rfl⟩
      · rfl
      · exact List.takeWhile_cons_of_neg (by simp [hBlank])
  | cons c cs ih => rw [List.cons_append, List.takeWhile_cons, List.takeWhile_cons, ih]

theorem dropWhile_append_apart {p : Char → Bool} (hBlank : p ' ' = false) (cs : List Char)
    {rest : List Char} (hRest : Apart rest) : (cs ++ rest).dropWhile p = cs.dropWhile p ++ rest := by
  induction cs with
  | nil =>
      rcases hRest with rfl | ⟨more, rfl⟩
      · rfl
      · exact List.dropWhile_cons_of_neg (by simp [hBlank])
  | cons c cs ih =>
      rw [List.cons_append, List.dropWhile_cons, List.dropWhile_cons, ih]
      split <;> rfl

/-- The characters that begin a symbol, a link, a tag or a string. -/
def marks : List Char :=
  ['&', '|', '.', ',', ':', '+', '-', '*', '/', '%', '(', ')', '\x7b', '\x7d', ']', '[', '=', '>', '<',
    '!', '#', '"', '\'']

/-- A character that is no mark begins a word or a number, or is a fault. -/
theorem readFront_of_not_mark {c : Char} (hMark : c ∉ marks) (now : Date) (cs : List Char) :
    readFront now (c :: cs) =
      if isNameStart c then readWord now (c :: cs)
      else if c.isDigit then readNumber (c :: cs)
      else .error ⟨.unexpectedCharacter c, 0⟩ := by
  unfold readFront
  split <;> cases ‹c :: cs = _›
  all_goals first
    | rfl
    | exact absurd (by decide) hMark

/-- A character that may begin a name begins a word. -/
theorem readFront_of_isNameStart {c : Char} (hStart : isNameStart c = true) (now : Date)
    (cs : List Char) : readFront now (c :: cs) = readWord now (c :: cs) := by
  have hMark : c ∉ marks := fun hMem => by
    have hNone : marks.all (!isNameStart ·) = true := by decide
    have hNot := List.all_eq_true.mp hNone c hMem
    rw [hStart] at hNot
    cases hNot
  rw [readFront_of_not_mark hMark, if_pos hStart]

/-- A digit begins a number. -/
theorem readFront_of_isDigit {c : Char} (hDigit : c.isDigit = true) (now : Date) (cs : List Char) :
    readFront now (c :: cs) = readNumber (c :: cs) := by
  have hNoOther : c ∉ marks ∧ isNameStart c = false :=
    Text.forall_ascii (P := fun c => c.isDigit = true → c ∉ marks ∧ isNameStart c = false)
      (by decide) c (Text.toNat_lt_of_isDigit hDigit) hDigit
  rw [readFront_of_not_mark hNoOther.1, hNoOther.2, if_neg Bool.false_ne_true, if_pos hDigit]

/-! A name is read up to the first character that does not continue it. -/

/-- Up to the end of the word nothing is looked at but the word itself; what is behind it decides only
whether a date or a span is read. -/
theorem readWord_before_stop (now : Date) {word rest : List Char}
    (hWord : ∀ c ∈ word, isNamePart c = true) (hRest : ∀ c ∈ rest.head?, isNamePart c = false) :
    readWord now (word ++ rest) =
      match readTemporal? now (String.ofList word) rest with
      | some result => .ok result
      | none => .ok (ofWord (String.ofList word), word.length) := by
  have hTake : (word ++ rest).takeWhile isNamePart = word := by
    rw [List.takeWhile_append_of_pos hWord]
    cases rest with
    | nil => rw [List.takeWhile_nil, List.append_nil]
    | cons c cs => rw [List.takeWhile_cons_of_neg (by simp [hRest c rfl]), List.append_nil]
  cases hTemporal : readTemporal? now (String.ofList word) rest <;> simp [readWord, hTake, hTemporal]

/-- A word that is put apart is a token by itself. -/
theorem readWord_apart (now : Date) {word rest : List Char}
    (hWord : ∀ c ∈ word, isNamePart c = true) (hRest : Apart rest) :
    readWord now (word ++ rest) = .ok (ofWord (String.ofList word), word.length) := by
  have hStop : ∀ c ∈ rest.head?, isNamePart c = false := by
    rcases hRest with rfl | ⟨cs, rfl⟩
    · exact nofun
    · rintro _ ⟨⟩
      rfl
  have hTemporal : readTemporal? now (String.ofList word) rest = none := by
    rcases hRest with rfl | ⟨cs, rfl⟩ <;> rfl
  rw [readWord_before_stop now hWord hStop, hTemporal]

theorem isNamePart_of_isNameStart {c : Char} (h : isNameStart c = true) : isNamePart c = true := by
  rw [isNameStart, Bool.or_eq_true] at h
  rw [isNamePart, Text.isAlphanumeric]
  rcases h with h | h <;> simp [h]

/-- No blank may stand in a name. -/
theorem isBlank_of_isNamePart {c : Char} (h : isNamePart c = true) : Text.isBlank c = false := by
  rw [isNamePart, Bool.or_eq_true, Bool.or_eq_true, decide_eq_true_eq, decide_eq_true_eq] at h
  rcases h with (h | rfl) | rfl
  · exact Text.isBlank_of_isAlphanumeric h
  · rfl
  · rfl

theorem isBlank_of_isNameStart {c : Char} (h : isNameStart c = true) : Text.isBlank c = false :=
  isBlank_of_isNamePart (isNamePart_of_isNameStart h)

theorem isBlank_of_isTagPart {c : Char} (h : isTagPart c = true) : Text.isBlank c = false := by
  rw [isTagPart, Bool.or_eq_true, decide_eq_true_eq] at h
  rcases h with h | rfl
  · exact isBlank_of_isNamePart h
  · rfl

/-- In small letters, the words that stand for symbols and constants. -/
def constantWords : List String := ["and", "or", "true", "false", "null"]

theorem ofWord_of_ordinary {word : String} (h : Text.lower word ∉ constantWords) :
    ofWord word = .identifier word := by
  rw [ofWord]
  split
  case h_6 => rfl
  all_goals exact absurd (by simp [constantWords, *]) h

theorem ofWord_ne_identifier {word : String} (h : Text.lower word ∈ constantWords) (name : String) :
    ofWord word ≠ .identifier name := by
  simp only [constantWords, List.mem_cons, List.not_mem_nil, or_false] at h
  rcases h with h | h | h | h | h <;> simp [ofWord, h]

/-- A word is a name when it is no constant. -/
theorem ofWord_eq_identifier_iff {word name : String} :
    ofWord word = .identifier name ↔ word = name ∧ Text.lower word ∉ constantWords := by
  by_cases hConstant : Text.lower word ∈ constantWords
  · exact iff_of_false (ofWord_ne_identifier hConstant name) fun h => h.2 hConstant
  · rw [ofWord_of_ordinary hConstant, Token.identifier.injEq]
    exact (and_iff_left hConstant).symm

/-! A string is read character by character up to its quote. -/

variable {quote c : Char}

theorem readStringBody?_quote (cs : List Char) : readStringBody? quote (quote :: cs) = some ([], 1) := by
  rw [readStringBody?.eq_def]
  exact if_pos rfl

theorem readStringBody?_escape (hQuote : '\\' ≠ quote) (cs : List Char) :
    readStringBody? quote ('\\' :: c :: cs) =
      (readStringBody? quote cs).map fun (body, length) => (unescape c :: body, length + 2) := by
  rw [readStringBody?.eq_def]
  exact (if_neg hQuote).trans (if_pos rfl)

theorem readStringBody?_plain (hQuote : c ≠ quote) (hEscape : c ≠ '\\') (cs : List Char) :
    readStringBody? quote (c :: cs) =
      (readStringBody? quote cs).map fun (body, length) => (c :: body, length + 1) := by
  rw [readStringBody?.eq_def]
  exact (if_neg hQuote).trans (if_neg hEscape)

end Token

namespace Scan

variable {now : Date}

/-- Behind the characters of a token the scan begins anew. -/
theorem run_skip (within cs : List Char) (offset : Nat) :
    run now within.length offset (within ++ cs) = run now 0 (offset + within.length) cs := by
  induction within generalizing offset with
  | nil => rfl
  | cons c within ih =>
      rw [List.length_cons, List.cons_append, run, ih]
      congr 1
      omega

theorem run_blank (cs : List Char) (offset : Nat) :
    run now 0 offset (' ' :: cs) = run now 0 (offset + 1) cs :=
  if_pos rfl

/-- A token that is read at the front becomes the first one of the scan. -/
theorem run_token {c : Char} {within cs : List Char} {token : Token} (hBlank : Text.isBlank c = false)
    (hFront : Token.readFront now (c :: within ++ cs) = .ok (token, within.length + 1)) (offset : Nat) :
    run now 0 offset (c :: within ++ cs) =
      (run now 0 (offset + (within.length + 1)) cs).cons
        ⟨token, offset, offset + (within.length + 1)⟩ := by
  rw [List.cons_append] at hFront ⊢
  rw [run, if_neg (by rw [hBlank]; exact Bool.false_ne_true), hFront]
  dsimp only
  rw [Nat.add_sub_cancel, run_skip]
  congr 2
  omega

end Scan

end DocQuery
