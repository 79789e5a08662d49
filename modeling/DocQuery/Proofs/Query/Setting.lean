import DocQuery.Query.Read
import DocQuery.Proofs.Expr.Grammar
import DocQuery.Proofs.Token.Cut

/-!
A stretch of text in two settings: alone at the end of a text, and in front of a further clause. What is
read from it alone is read from it in the other setting too, and the reader stops at the same token,
because no reader takes a word that begins a clause.
-/

namespace DocQuery

open Lexeme

/-- Only reserved words are spelled like reserved words. -/
theorem sameUpToAsciiCase_of_isReserved {word other : String} (hReserved : isReserved word = true)
    (hOther : isReserved other = false) : Text.sameUpToAsciiCase word other = false := by
  rw [← Bool.not_eq_true]
  intro hSame
  rw [isReserved_congr hSame, hOther] at hReserved
  cases hReserved

/-- What stands around a stretch of text, with the tokens of the text behind it. -/
structure Setting where
  before : List Char
  behind : List Char
  tail : List Lexeme

namespace Setting

/-- The text with a given stretch inside. -/
def text (s : Setting) (middle : List Char) : List Char := s.before ++ (middle ++ s.behind)

/-- The tokens from some tokens of the stretch on; their offsets are counted inside it. -/
def place (s : Setting) (us : List Lexeme) : List Lexeme := us.map (shift s.before.length) ++ s.tail

theorem place_cons (s : Setting) (token : Token) (start stop : Nat) (us : List Lexeme) :
    s.place (⟨token, start, stop⟩ :: us) =
      ⟨token, s.before.length + start, s.before.length + stop⟩ :: s.place us :=
  rfl

theorem length_lt_of_place {s : Setting} {us left : List Lexeme}
    (h : (s.place left).length < (s.place us).length) : left.length < us.length := by
  rw [place, place, List.length_append, List.length_append, List.length_map, List.length_map] at h
  exact Nat.lt_of_add_lt_add_right h

/-- A token of which as much follows as stands behind the stretch belongs to the stretch. -/
theorem exists_of_cons_eq {s : Setting} {t : Lexeme} {more us : List Lexeme} (hPlace : t :: more = s.place us)
    (hWithin : s.tail.length ≤ more.length) :
    ∃ u left, us = u :: left ∧ u.token = t.token ∧ more = s.place left := by
  cases us with
  | nil =>
      rw [place, List.map_nil, List.nil_append] at hPlace
      rw [← hPlace] at hWithin
      exact absurd hWithin (Nat.not_succ_le_self _)
  | cons u left =>
      obtain ⟨rfl, rfl⟩ := List.cons.inj hPlace
      exact ⟨u, left, rfl, rfl, rfl⟩

/-- A symbol in front of the tail comes from the tokens that are placed there. -/
theorem exists_of_symbol {setting : Setting} {t : Lexeme} {more us : List Lexeme} {s : Symbol}
    (hPlace : t :: more = setting.place us) (hWithin : setting.tail.length ≤ more.length)
    (hToken : t.token = .symbol s) :
    ∃ u left, us = u :: left ∧ u.token = .symbol s ∧ more = setting.place left := by
  obtain ⟨u, left, hUs, hSame, hMore⟩ := exists_of_cons_eq hPlace hWithin
  exact ⟨u, left, hUs, hSame.trans hToken, hMore⟩

/-- A token of a kind that an opening parenthesis is not of. -/
theorem exists_of_some {s : Setting} {t : Lexeme} {more us : List Lexeme} {α : Type}
    {kind : Token → Option α} {a : α} (hPlace : t :: more = s.place us)
    (hWithin : s.tail.length ≤ more.length) (hKind : kind t.token = some a)
    (hOpen : kind (.symbol .openParen) = none) :
    ∃ u left, us = u :: left ∧ kind u.token = some a ∧ u.token ≠ .symbol .openParen ∧
      more = s.place left := by
  obtain ⟨u, left, hUs, hSame, hMore⟩ := exists_of_cons_eq hPlace hWithin
  refine ⟨u, left, hUs, hSame ▸ hKind, fun hParen => ?_, hMore⟩
  rw [← hSame, hParen, hOpen] at hKind
  cases hKind

/-- Behind the stretch the first setting does not go on with arguments, and the second one ends or goes on
with a clause. -/
structure Parts (here there : Setting) : Prop where
  apart : current here.tail ≠ .symbol .openParen
  stops : Header.atBoundary there.tail = true

section Parts

variable {here there : Setting}

/-- Behind the text of a part comes the end or a reserved word. -/
theorem Parts.finish_or_reserved (h : Parts here there) : current there.tail = .finish ∨
    ∃ word, current there.tail = .identifier word ∧ isReserved word = true := by
  have hStops := h.stops
  rw [Header.atBoundary] at hStops
  split at hStops
  · next hFinish => exact .inl hFinish
  · next word hWord =>
      rw [Bool.and_eq_true] at hStops
      exact .inr ⟨word, hWord, hStops.1⟩
  · cases hStops

/-- What holds of the next token in the first setting holds of it in the second one, if it holds of the end
and of the words that begin a clause. -/
theorem Parts.current_place (h : Parts here there) {P : Token → Prop} (hFinish : P .finish)
    (hWord : ∀ word, isReserved word = true → P (.identifier word)) {us : List Lexeme}
    (hCurrent : P (current (here.place us))) : P (current (there.place us)) := by
  cases us with
  | nil =>
      rcases h.finish_or_reserved with hEnd | ⟨word, hName, hReserved⟩
      · exact hEnd ▸ hFinish
      · exact hName ▸ hWord word hReserved
  | cons u us => exact hCurrent

/-- A name is called in one setting when it is in the other. -/
theorem Parts.isCall_place (h : Parts here there) (u : Lexeme) (us : List Lexeme) :
    isCall (there.place (u :: us)) = isCall (here.place (u :: us)) := by
  have hLone (s : Setting) (hTail : current s.tail ≠ .symbol .openParen) :
      isCall (s.place [u]) = false := by
    obtain ⟨before, behind, tail⟩ := s
    cases tail with
    | nil => rfl
    | cons t tail =>
        have hToken : (t.token == .symbol .openParen) = false := beq_eq_false_iff_ne.mpr hTail
        simp [place, isCall, hToken]
  cases us with
  | nil =>
      have hThere : current (there.place []) ≠ .symbol .openParen :=
        h.current_place (P := (· ≠ .symbol .openParen)) nofun nofun h.apart
      rw [hLone here h.apart, hLone there hThere]
  | cons w us =>
      have hShift (s : Setting) : (s.before.length + u.stop == s.before.length + w.start) =
          (u.stop == w.start) := by
        rw [Bool.eq_iff_iff, beq_iff_eq, beq_iff_eq, Nat.add_left_cancel_iff]
      simp only [place, isCall, shift, List.map_cons, List.cons_append, hShift]

end Parts

/-- In the first setting the text ends behind the stretch; in the second it may go on with a clause. -/
structure Meets (alone joined : Setting) : Prop where
  ends : current alone.tail = .finish
  stops : Header.atBoundary joined.tail = true

variable {alone joined : Setting}

theorem Meets.parts (h : Meets alone joined) : Parts alone joined := by
  refine ⟨?_, h.stops⟩
  rw [h.ends]
  nofun

/-- A token that is not the end belongs to the stretch. -/
theorem Meets.tail_le (h : Meets alone joined) {t : Lexeme} {more us : List Lexeme}
    (hPlace : t :: more = alone.place us) (hToken : t.token ≠ .finish) :
    alone.tail.length ≤ more.length := by
  cases us with
  | nil =>
      have hEnds := h.ends
      rw [place, List.map_nil, List.nil_append] at hPlace
      rw [← hPlace] at hEnds
      exact absurd hEnds hToken
  | cons u left =>
      obtain ⟨-, rfl⟩ := List.cons.inj hPlace
      simp only [List.append_eq, List.length_append]
      exact Nat.le_add_left ..

/-- What holds of the next token alone holds of it where a clause follows, if it holds of the words
that begin one. -/
theorem Meets.current_place (h : Meets alone joined) {P : Token → Prop}
    (hWord : ∀ word, isReserved word = true → P (.identifier word)) {us : List Lexeme}
    (hCurrent : P (current (alone.place us))) : P (current (joined.place us)) := by
  cases us with
  | nil => exact h.parts.current_place (h.ends ▸ hCurrent) hWord hCurrent
  | cons u us => exact hCurrent

theorem Meets.atBoundary_place (h : Meets alone joined) (us : List Lexeme) :
    Header.atBoundary (joined.place us) = Header.atBoundary (alone.place us) := by
  cases us with
  | nil =>
      have hAlone : Header.atBoundary alone.tail = true := by rw [Header.atBoundary, h.ends]
      exact h.stops.trans hAlone.symm
  | cons u us =>
      have hCall := h.parts.isCall_place u us
      rw [Header.atBoundary, Header.atBoundary, hCall]
      rfl

/-- A word that begins no clause comes next in both settings or in none. -/
theorem Meets.isWord_place (h : Meets alone joined) {word : String} (hFree : isReserved word = false)
    (us : List Lexeme) : isWord word (joined.place us) = isWord word (alone.place us) := by
  cases us with
  | nil =>
      have hAlone : isWord word alone.tail = false := by rw [isWord, h.ends]
      have hJoined : isWord word joined.tail = false := by
        rcases h.parts.finish_or_reserved with hEnd | ⟨other, hName, hReserved⟩
        · rw [isWord, hEnd]
        · rw [isWord, hName]
          exact sameUpToAsciiCase_of_isReserved hReserved hFree
      exact hJoined.trans hAlone.symm
  | cons u us => rfl

/-- A word that comes next is a token of the stretch. -/
theorem Meets.exists_of_isWord (h : Meets alone joined) {word : String} {us : List Lexeme}
    (hWord : isWord word (alone.place us) = true) :
    ∃ u left, us = u :: left ∧ u.token ≠ .symbol .openParen := by
  cases us with
  | nil =>
      have hNone : isWord word alone.tail = false := by rw [isWord, h.ends]
      exact absurd (hNone.symm.trans hWord) Bool.false_ne_true
  | cons u left =>
      refine ⟨u, left, rfl, fun hOpen => ?_⟩
      have hCurrent : current (alone.place (u :: left)) = .symbol .openParen := hOpen
      rw [isWord, hCurrent] at hWord
      cases hWord

end Setting

namespace Lexeme

/-- Between two places all opened parentheses are closed. -/
def Uses (us left : List Lexeme) : Prop := ∃ used, us = used ++ left ∧ Closed used

/-- Closed stretches behind one another are closed. -/
theorem Closed.append {us others : List Lexeme} (h : Closed us) (hOthers : Closed others) :
    Closed (us ++ others) := by
  induction us with
  | nil => exact hOthers
  | cons u us ih =>
      refine ⟨fun hOpen => ?_, ih h.2⟩
      obtain ⟨w, hMem, hClose⟩ := h.1 hOpen
      exact ⟨w, List.mem_append_left _ hMem, hClose⟩

theorem Uses.refl (us : List Lexeme) : Uses us us := ⟨[], rfl, trivial⟩

theorem Uses.closed {us : List Lexeme} (h : Uses us []) : Closed us := by
  obtain ⟨used, rfl, hClosed⟩ := h
  rwa [List.append_nil]

/-- What is used by two readers is used by both together. -/
theorem Uses.trans {us middle left : List Lexeme} (h : Uses us middle) (hMore : Uses middle left) :
    Uses us left := by
  obtain ⟨used, rfl, hClosed⟩ := h
  obtain ⟨more, rfl, hMoreClosed⟩ := hMore
  exact ⟨used ++ more, (List.append_assoc ..).symm, hClosed.append hMoreClosed⟩

theorem Uses.cons {u : Lexeme} (hToken : u.token ≠ .symbol .openParen) {us left : List Lexeme}
    (h : Uses us left) : Uses (u :: us) left := by
  obtain ⟨used, rfl, hClosed⟩ := h
  exact ⟨u :: used, rfl, fun hOpen => absurd hOpen hToken, hClosed⟩

theorem Uses.symbol {u : Lexeme} {s : Symbol} (hToken : u.token = .symbol s) (hs : s ≠ .openParen)
    {us left : List Lexeme} (h : Uses us left) : Uses (u :: us) left :=
  h.cons fun hOpen => hs (Token.symbol.inj (hToken.symm.trans hOpen))

theorem Uses.single {token : Token} (hToken : token ≠ .symbol .openParen) (start stop : Nat)
    (left : List Lexeme) : Uses (⟨token, start, stop⟩ :: left) left :=
  (Uses.refl left).cons hToken

/-- What is used between two parentheses is used with them. -/
theorem Uses.parens {u w : Lexeme} (hClose : w.token = .symbol .closeParen) {us left : List Lexeme}
    (h : Uses us (w :: left)) : Uses (u :: us) left := by
  obtain ⟨used, rfl, hClosed⟩ := h
  have hLone : Closed [w] := ⟨fun hOpen => (nomatch hClose.symm.trans hOpen), trivial⟩
  refine ⟨u :: (used ++ [w]), by simp, fun _ => ⟨w, by simp, hClose⟩, hClosed.append hLone⟩

end Lexeme

namespace Expr

open Setting

variable {here there : Setting}

/-- The tokens of a part, which for items end with their closing bracket. -/
def Phrase.Uses : Phrase → List Lexeme → List Lexeme → Prop
  | items closing, us, left => ∃ w, w.token = .symbol closing ∧ Lexeme.Uses us (w :: left)
  | _, us, left => Lexeme.Uses us left

theorem Reads.length_le {phrase : Phrase} {ts rest : List Lexeme} {v : phrase.Result}
    (h : Reads phrase ts v rest) : rest.length ≤ ts.length := by
  have hAnswers := h.answers
  cases phrase <;> obtain ⟨within, -⟩ := hAnswers <;> omega

/-- A part of the stretch is read in the second setting as in the first one. -/
theorem Reads.moved (hParts : Parts here there) {phrase : Phrase} {ts rest us : List Lexeme}
    {v : phrase.Result} (h : Reads phrase ts v rest) (hPlace : ts = here.place us)
    (hWithin : here.tail.length ≤ rest.length) :
    ∃ left, rest = here.place left ∧ phrase.Uses us left ∧
      Reads phrase (there.place us) v (there.place left) := by
  -- The induction is on the reading, not on the stretch: each part begins where the one before it ends,
  -- and that place lies in the stretch because what is left in the end does not reach into it.
  induction h generalizing us with
  | levelZero unary ih =>
      obtain ⟨left, hRest, hUses, hUnary⟩ := ih hPlace hWithin
      exact ⟨left, hRest, hUses, .levelZero hUnary⟩
  | levelSucc first others ihFirst ihOthers =>
      obtain ⟨middle, hMiddle, hUses, hFirst⟩ := ihFirst hPlace (hWithin.trans others.length_le)
      obtain ⟨left, hRest, hUsesMore, hOthers⟩ := ihOthers hMiddle hWithin
      exact ⟨left, hRest, hUses.trans hUsesMore, .levelSucc hFirst hOthers⟩
  | @chainEnd below left ts stop =>
      have hStop := hParts.current_place (P := (opOfLevel? (below + 1) · = none)) rfl (fun _ _ => rfl)
        (hPlace ▸ stop)
      exact ⟨us, hPlace, .refl us, .chainEnd hStop⟩
  | chainMore operator operand others ihOperand ihOthers =>
      have hMiddleWithin := hWithin.trans others.length_le
      obtain ⟨u, us, rfl, hOperator, hToken, hMore⟩ :=
        exists_of_some hPlace (hMiddleWithin.trans operand.length_le) operator rfl
      obtain ⟨middle, hMiddle, hUses, hOperand⟩ := ihOperand hMore hMiddleWithin
      obtain ⟨left, hRest, hUsesMore, hOthers⟩ := ihOthers hMiddle hWithin
      exact ⟨left, hRest, (hUses.trans hUsesMore).cons hToken, .chainMore hOperator hOperand hOthers⟩
  | unaryNot sign operand ih =>
      obtain ⟨u, us, rfl, hSign, hMore⟩ := exists_of_symbol hPlace (hWithin.trans operand.length_le) sign
      obtain ⟨left, hRest, hUses, hOperand⟩ := ih hMore hWithin
      exact ⟨left, hRest, hUses.symbol hSign nofun, .unaryNot hSign hOperand⟩
  | unaryMinus sign operand ih =>
      obtain ⟨u, us, rfl, hSign, hMore⟩ := exists_of_symbol hPlace (hWithin.trans operand.length_le) sign
      obtain ⟨left, hRest, hUses, hOperand⟩ := ih hMore hWithin
      exact ⟨left, hRest, hUses.symbol hSign nofun, .unaryMinus hSign hOperand⟩
  | unaryNone notBang notMinus operand ih =>
      obtain ⟨left, hRest, hUses, hOperand⟩ := ih hPlace hWithin
      have hBang := hParts.current_place (P := (· ≠ .symbol .bang)) nofun nofun (hPlace ▸ notBang)
      have hMinus := hParts.current_place (P := (· ≠ .symbol .minus)) nofun nofun (hPlace ▸ notMinus)
      exact ⟨left, hRest, hUses, .unaryNone hBang hMinus hOperand⟩
  | operand first others ihFirst ihOthers =>
      obtain ⟨middle, hMiddle, hUses, hFirst⟩ := ihFirst hPlace (hWithin.trans others.length_le)
      obtain ⟨left, hRest, hUsesMore, hOthers⟩ := ihOthers hMiddle hWithin
      exact ⟨left, hRest, hUses.trans hUsesMore, .operand hFirst hOthers⟩
  | suffixEnd stop =>
      have hStop := hParts.current_place (P := (isSuffix · = false)) rfl (fun _ _ => rfl) (hPlace ▸ stop)
      exact ⟨us, hPlace, .refl us, .suffixEnd hStop⟩
  | suffixField dot field others ih =>
      have hOthersWithin := hWithin.trans others.length_le
      obtain ⟨u, us, rfl, hDot, hMore⟩ := exists_of_symbol hPlace (Nat.le_succ_of_le hOthersWithin) dot
      obtain ⟨w, us, rfl, hSame, hMore⟩ := exists_of_cons_eq hMore hOthersWithin
      have hField := hSame.trans field
      obtain ⟨left, hRest, hUses, hOthers⟩ := ih hMore hWithin
      refine ⟨left, hRest, (hUses.cons (by simp [hField])).symbol hDot nofun, ?_⟩
      exact .suffixField hDot hField hOthers
  | suffixIndex opening inside closing others ihInside ihOthers =>
      have hOthersWithin := hWithin.trans others.length_le
      have hCloseWithin := Nat.le_succ_of_le hOthersWithin
      obtain ⟨u, us, rfl, hOpening, hMore⟩ :=
        exists_of_symbol hPlace (hCloseWithin.trans inside.length_le) opening
      obtain ⟨close, hClose, hUses, hInside⟩ := ihInside hMore hCloseWithin
      obtain ⟨w, middle, rfl, hClosing, hMiddle⟩ := exists_of_symbol hClose hOthersWithin closing
      obtain ⟨left, hRest, hUsesMore, hOthers⟩ := ihOthers hMiddle hWithin
      refine ⟨left, hRest, (hUses.trans (hUsesMore.symbol hClosing nofun)).symbol hOpening nofun, ?_⟩
      exact .suffixIndex hOpening hInside hClosing hOthers
  | suffixCall opening inside others ihInside ihOthers =>
      have hOthersWithin := hWithin.trans others.length_le
      obtain ⟨u, us, rfl, hOpening, hMore⟩ :=
        exists_of_symbol hPlace (hOthersWithin.trans inside.length_le) opening
      obtain ⟨middle, hMiddle, ⟨w, hClosing, hUses⟩, hInside⟩ := ihInside hMore hOthersWithin
      obtain ⟨left, hRest, hUsesMore, hOthers⟩ := ihOthers hMiddle hWithin
      exact ⟨left, hRest, (hUses.parens hClosing).trans hUsesMore, .suffixCall hOpening hInside hOthers⟩
  | literal value =>
      obtain ⟨u, left, rfl, hValue, hToken, hRest⟩ := exists_of_some hPlace hWithin value rfl
      exact ⟨left, hRest, (Uses.refl left).cons hToken, .literal hValue⟩
  | name identifier free =>
      obtain ⟨u, left, rfl, hSame, hRest⟩ := exists_of_cons_eq hPlace hWithin
      have hName := hSame.trans identifier
      refine ⟨left, hRest, (Uses.refl left).cons (by simp [hName]), .name hName fun hReserved => ?_⟩
      exact (hParts.isCall_place u left).trans (hPlace ▸ free hReserved)
  | parens opening inside closing ih =>
      have hCloseWithin := Nat.le_succ_of_le hWithin
      obtain ⟨u, us, rfl, hOpening, hMore⟩ :=
        exists_of_symbol hPlace (hCloseWithin.trans inside.length_le) opening
      obtain ⟨close, hClose, hUses, hInside⟩ := ih hMore hCloseWithin
      obtain ⟨w, left, rfl, hClosing, hRest⟩ := exists_of_symbol hClose hWithin closing
      exact ⟨left, hRest, hUses.parens hClosing, .parens hOpening hInside hClosing⟩
  | list opening inside ih =>
      obtain ⟨u, us, rfl, hOpening, hMore⟩ :=
        exists_of_symbol hPlace (hWithin.trans inside.length_le) opening
      obtain ⟨left, hRest, ⟨w, hClosing, hUses⟩, hInside⟩ := ih hMore hWithin
      refine ⟨left, hRest,
        (hUses.trans ((Uses.refl left).symbol hClosing nofun)).symbol hOpening nofun, ?_⟩
      exact .list hOpening hInside
  | object opening inside ih =>
      obtain ⟨u, us, rfl, hOpening, hMore⟩ :=
        exists_of_symbol hPlace (hWithin.trans inside.length_le) opening
      obtain ⟨left, hRest, hUses, hInside⟩ := ih hMore hWithin
      exact ⟨left, hRest, hUses.symbol hOpening nofun, .object hOpening hInside⟩
  | itemsEnd stop =>
      obtain ⟨u, left, rfl, hStop, hRest⟩ := exists_of_symbol hPlace hWithin stop
      exact ⟨left, hRest, ⟨u, hStop, .refl _⟩, .itemsEnd hStop⟩
  | @itemsLast closing ts t rest item notClosed first stop ih =>
      have hOpen := hParts.current_place (P := (· ≠ .symbol closing)) nofun nofun (hPlace ▸ notClosed)
      obtain ⟨close, hClose, hUses, hFirst⟩ := ih hPlace (Nat.le_succ_of_le hWithin)
      obtain ⟨w, left, rfl, hStop, hRest⟩ := exists_of_symbol hClose hWithin stop
      exact ⟨left, hRest, ⟨w, hStop, hUses⟩, .itemsLast hOpen hFirst hStop⟩
  | @itemsMore closing ts t middle rest item others notClosed first comma apart go ihFirst ihGo =>
      have hGoWithin := hWithin.trans go.length_le
      have hOpen := hParts.current_place (P := (· ≠ .symbol closing)) nofun nofun (hPlace ▸ notClosed)
      obtain ⟨behind, hBehind, hUses, hFirst⟩ := ihFirst hPlace (Nat.le_succ_of_le hGoWithin)
      obtain ⟨u, middle, rfl, hComma, hMiddle⟩ := exists_of_symbol hBehind hGoWithin comma
      obtain ⟨left, hRest, ⟨w, hStop, hUsesMore⟩, hGo⟩ := ihGo hMiddle hWithin
      refine ⟨left, hRest, ⟨w, hStop, hUses.trans (hUsesMore.symbol hComma nofun)⟩, ?_⟩
      exact .itemsMore hOpen hFirst hComma (fun hSame => apart (comma.trans (hComma.symm.trans hSame))) hGo
  | entriesEnd stop =>
      obtain ⟨u, left, rfl, hStop, hRest⟩ := exists_of_symbol hPlace hWithin stop
      exact ⟨left, hRest, (Uses.refl left).symbol hStop nofun, .entriesEnd hStop⟩
  | entriesLast label colon first stop ih =>
      have hFirstWithin := (Nat.le_succ_of_le hWithin).trans first.length_le
      obtain ⟨u, us, rfl, hLabel, hToken, hMore⟩ :=
        exists_of_some hPlace (Nat.le_succ_of_le hFirstWithin) label rfl
      obtain ⟨w, us, rfl, hColon, hMore⟩ := exists_of_symbol hMore hFirstWithin colon
      obtain ⟨close, hClose, hUses, hFirst⟩ := ih hMore (Nat.le_succ_of_le hWithin)
      obtain ⟨x, left, rfl, hStop, hRest⟩ := exists_of_symbol hClose hWithin stop
      have hUsesMore := hUses.trans ((Uses.refl left).symbol hStop nofun)
      exact ⟨left, hRest, (hUsesMore.symbol hColon nofun).cons hToken,
        .entriesLast hLabel hColon hFirst hStop⟩
  | entriesMore label colon first comma go ihFirst ihGo =>
      have hGoWithin := hWithin.trans go.length_le
      have hFirstWithin := (Nat.le_succ_of_le hGoWithin).trans first.length_le
      obtain ⟨u, us, rfl, hLabel, hToken, hMore⟩ :=
        exists_of_some hPlace (Nat.le_succ_of_le hFirstWithin) label rfl
      obtain ⟨w, us, rfl, hColon, hMore⟩ := exists_of_symbol hMore hFirstWithin colon
      obtain ⟨behind, hBehind, hUses, hFirst⟩ := ihFirst hMore (Nat.le_succ_of_le hGoWithin)
      obtain ⟨x, middle, rfl, hComma, hMiddle⟩ := exists_of_symbol hBehind hGoWithin comma
      obtain ⟨left, hRest, hUsesGo, hGo⟩ := ihGo hMiddle hWithin
      have hUsesMore := hUses.trans (hUsesGo.symbol hComma nofun)
      exact ⟨left, hRest, (hUsesMore.symbol hColon nofun).cons hToken,
        .entriesMore hLabel hColon hFirst hComma hGo⟩

end Expr

end DocQuery
