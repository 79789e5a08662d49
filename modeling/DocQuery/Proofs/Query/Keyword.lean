import Mathlib
import DocQuery.Proofs.Query.Progress
import DocQuery.Proofs.Query.Setting
import DocQuery.Proofs.Text.LetterCase

/-!
The words that begin a clause are known in three places: where a clause is read, where a variable is read,
and where the fields of a header end. The first place looks at the upper case of a word, the others only
at the case of `a` to `z`, so that they differ on words with a letter whose upper case is in `A` to `Z`.
-/

namespace DocQuery

open Lexeme

/-- In small letters, the words other than reserved ones that have a reserved word as their upper case. -/
def lookalikes : List String := ["ﬂatten", "lımit", "limıt", "lımıt", "havıng", "ſort"]

/-- Whether a word is one of these, in any case of the letters `a` to `z`. -/
def isLookalike (word : String) : Bool := lookalikes.any (Text.sameUpToAsciiCase word)

/-! ### Upper case -/

/-- All words in small letters that have a reserved word as their upper case. -/
def reservedSpellings : List (List Char) :=
  reservedWords.flatMap fun word =>
    (List.range (word.length + 1)).flatMap fun n => Text.spellings n word.toList

/-- The spellings are those of the reserved words and of the words that look like them. -/
theorem reservedSpellings_perm : reservedSpellings.Perm
    ((reservedWords ++ lookalikes).map fun word => word.toList.map Char.toLower) := by
  decide

/-- In capital letters a word is reserved when it is or looks like one. -/
theorem upper_mem_reservedWords_iff {word : String} :
    Text.upper word ∈ reservedWords ↔ isReserved word = true ∨ isLookalike word = true := by
  have hUpper : ∀ other ∈ reservedWords, other.toList.all Char.isUpper = true := by decide
  calc
    Text.upper word ∈ reservedWords
      ↔ ∃ other ∈ reservedWords, Text.upper word = other := by simp
    _ ↔ ∃ other ∈ reservedWords, ∃ n ≤ other.length,
          word.toList.map Char.toLower ∈ Text.spellings n other.toList :=
      exists_congr fun other => and_congr_right fun hOther => Text.upper_eq_iff (hUpper other hOther)
    _ ↔ word.toList.map Char.toLower ∈ reservedSpellings := by
      simp only [reservedSpellings, List.mem_flatMap, List.mem_range, Nat.lt_succ_iff]
    _ ↔ ∃ other ∈ reservedWords ++ lookalikes, Text.sameUpToAsciiCase word other = true := by
      rw [reservedSpellings_perm.mem_iff, List.mem_map]
      refine exists_congr fun other => and_congr_right fun _ => ?_
      rw [Text.sameUpToAsciiCase, beq_iff_eq, eq_comm]
    _ ↔ isReserved word = true ∨ isLookalike word = true := by
      rw [isReserved, isLookalike, ← Bool.or_eq_true, ← List.any_append, List.any_eq_true]

/-- What looks like a reserved word is none. -/
theorem isReserved_of_isLookalike {word : String} (h : isLookalike word = true) :
    isReserved word = false := by
  obtain ⟨other, hOther, hSame⟩ := List.any_eq_true.mp h
  have hFree := (by decide : ∀ other ∈ lookalikes, isReserved other = false) other hOther
  rw [← Bool.not_eq_true]
  intro hReserved
  rw [sameUpToAsciiCase_of_isReserved hReserved hFree] at hSame
  cases hSame

theorem upper_of_mem_reservedWords {word : String} (h : word ∈ reservedWords) : Text.upper word = word :=
  (by decide : ∀ word ∈ reservedWords, Text.upper word = word) word h

/-! ### The three places -/

/-- A word opens a clause when a reader of clauses takes it for a reserved word, whatever follows it. -/
def Clause.OpensWith (word : String) : Prop :=
  ∃ keyword ∈ reservedWords, ∀ text start stop rest,
    Clause.read text (⟨.identifier word, start, stop⟩ :: rest) =
      Clause.read text (⟨.identifier keyword, start, stop⟩ :: rest)

/-- Clauses are read by their words in capital letters. -/
theorem Clause.read_congr {word other : String} (h : Text.upper word = Text.upper other)
    (text : List Char) (start stop : Nat) (rest : List Lexeme) :
    Clause.read text (⟨.identifier word, start, stop⟩ :: rest) =
      Clause.read text (⟨.identifier other, start, stop⟩ :: rest) := by
  rw [Clause.read, Clause.read]
  dsimp only
  rw [h]
  rfl

/-- A word that opens no clause is a fault at its own place, while a reserved word has its faults behind
it. -/
theorem Clause.opensWith_iff {word : String} :
    Clause.OpensWith word ↔ Text.upper word ∈ reservedWords := by
  constructor
  · rintro ⟨keyword, hKeyword, hRead⟩
    by_contra hUnknown
    have hUpper : Text.upper keyword ∈ reservedWords := by rwa [upper_of_mem_reservedWords hKeyword]
    have hAdvances := Clause.read_word_advances [] hUpper 1 1 []
    rw [← hRead, Clause.read_word_unknown [] hUnknown] at hAdvances
    obtain ⟨left, ⟨used, hUsed, -⟩, hOffset⟩ := hAdvances
    rw [(List.append_eq_nil_iff.mp hUsed.symm).2] at hOffset
    cases hOffset
  · intro hUpper
    exact ⟨_, hUpper, Clause.read_congr (upper_of_mem_reservedWords hUpper).symm⟩

variable {word : String}

/-- A variable is refused exactly where the fields of a header end. -/
theorem Expr.readPrimary_identifier (start stop : Nat) (rest : List Lexeme) :
    Expr.readPrimary (⟨.identifier word, start, stop⟩ :: rest) =
      if Header.atBoundary (⟨.identifier word, start, stop⟩ :: rest) then
        .error (faultHere (⟨.identifier word, start, stop⟩ :: rest) (.reservedWord word))
      else .ok ⟨.name word, rest, Nat.lt_succ_self _⟩ := by
  rw [Expr.readPrimary]
  rfl

theorem Header.atBoundary_identifier (start stop : Nat) (rest : List Lexeme) :
    Header.atBoundary (⟨.identifier word, start, stop⟩ :: rest) =
      (isReserved word && !isCall (⟨.identifier word, start, stop⟩ :: rest)) :=
  rfl

/-- The places agree on a word: where it stands bare, it is refused as a variable and ends the fields of a
header exactly when it opens a clause. -/
def PlacesAgree (word : String) : Prop :=
  ∀ start stop rest, isCall (⟨.identifier word, start, stop⟩ :: rest) = false →
    (Clause.OpensWith word ↔
      Expr.readPrimary (⟨.identifier word, start, stop⟩ :: rest) =
          .error (faultHere (⟨.identifier word, start, stop⟩ :: rest) (.reservedWord word)) ∧
        Header.atBoundary (⟨.identifier word, start, stop⟩ :: rest) = true)

theorem opensWith_of_isLookalike (h : isLookalike word = true) : Clause.OpensWith word :=
  Clause.opensWith_iff.mpr (upper_mem_reservedWords_iff.mpr (.inr h))

theorem atBoundary_of_isLookalike (h : isLookalike word = true) (start stop : Nat) (rest : List Lexeme) :
    Header.atBoundary (⟨.identifier word, start, stop⟩ :: rest) = false := by
  rw [Header.atBoundary_identifier, isReserved_of_isLookalike h, Bool.false_and]

/-- Where all places agree, a word does not look like a reserved one. -/
theorem isLookalike_of_placesAgree (h : PlacesAgree word) : isLookalike word = false := by
  rw [← Bool.not_eq_true]
  intro hLookalike
  obtain ⟨-, hBoundary⟩ := (h 0 0 [] rfl).mp (opensWith_of_isLookalike hLookalike)
  rw [atBoundary_of_isLookalike hLookalike] at hBoundary
  cases hBoundary

/-- All places agree on a word that does not look like a reserved one. -/
theorem placesAgree_of_isLookalike_eq_false (h : isLookalike word = false) : PlacesAgree word := by
  intro start stop rest hBare
  rw [Clause.opensWith_iff, upper_mem_reservedWords_iff, h, Expr.readPrimary_identifier,
    Header.atBoundary_identifier, hBare]
  cases isReserved word <;> simp

/-- What opens a clause and ends no fields is a lookalike. -/
theorem isLookalike_of_opensWith (hOpens : Clause.OpensWith word)
    (hGoesOn : Header.atBoundary [⟨.identifier word, 0, 0⟩] = false) : isLookalike word = true := by
  rcases upper_mem_reservedWords_iff.mp (Clause.opensWith_iff.mp hOpens) with hReserved | hLookalike
  · rw [Header.atBoundary_identifier, hReserved] at hGoesOn
    cases hGoesOn
  · exact hLookalike

/-- The places agree on all words but the lookalikes, which are the words that open a clause, are variables
all the same, and end no fields. -/
theorem placesAgree_iff (word : String) :
    (PlacesAgree word ↔ isLookalike word = false) ∧
      (isLookalike word = true ↔ Clause.OpensWith word ∧ ∀ start stop rest,
        Expr.readPrimary (⟨.identifier word, start, stop⟩ :: rest) =
            .ok ⟨.name word, rest, Nat.lt_succ_self _⟩ ∧
          Header.atBoundary (⟨.identifier word, start, stop⟩ :: rest) = false) := by
  constructor
  · exact ⟨isLookalike_of_placesAgree, placesAgree_of_isLookalike_eq_false⟩
  · constructor
    · intro hLookalike
      refine ⟨opensWith_of_isLookalike hLookalike, fun start stop rest => ?_⟩
      have hBoundary := atBoundary_of_isLookalike hLookalike start stop rest
      rw [Expr.readPrimary_identifier, hBoundary]
      exact ⟨rfl, rfl⟩
    · rintro ⟨hOpens, hFree⟩
      exact isLookalike_of_opensWith hOpens (hFree 0 0 []).2

/-- What looks like a reserved word is shaped like a name. -/
theorem isNameShaped_of_mem_lookalikes (h : word ∈ lookalikes) : IsNameShaped word := by
  have hListed : lookalikes.all (fun word => word.toList ≠ [] &&
      word.toList.all (Text.letters.map Prod.fst).contains) = true := by decide
  have hWord := List.all_eq_true.mp hListed word h
  rw [Bool.and_eq_true, decide_eq_true_eq] at hWord
  obtain ⟨hNonempty, hLetters⟩ := hWord
  have hStart : ∀ c ∈ word.toList, Token.isNameStart c = true := by
    intro c hc
    obtain ⟨letter, hLetter, rfl⟩ :=
      List.mem_map.mp (List.contains_iff_mem.mp (List.all_eq_true.mp hLetters c hc))
    rw [Token.isNameStart, List.all_eq_true.mp Text.alphabetic_letters letter hLetter]
    rfl
  obtain ⟨c, cs, hWord⟩ := List.exists_cons_of_ne_nil hNonempty
  exact ⟨⟨c, cs, hWord, hStart c (hWord ▸ List.mem_cons_self ..)⟩,
    fun c hc => Token.isNamePart_of_isNameStart (hStart c hc)⟩

/-- Not all places agree on all words that are shaped like names. -/
theorem not_placesAgree_of_isNameShaped : ¬∀ word, IsNameShaped word → PlacesAgree word := by
  intro h
  have hMem : "ſort" ∈ lookalikes := by decide +kernel
  have hAgree := isLookalike_of_placesAgree (h "ſort" (isNameShaped_of_mem_lookalikes hMem))
  exact absurd hAgree (by decide +kernel)

end DocQuery
