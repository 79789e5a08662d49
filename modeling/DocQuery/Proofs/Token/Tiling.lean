import DocQuery.Proofs.Text.Slice
import DocQuery.Proofs.Token.Local

/-!
How the tokens of a text lie in it: one behind the other, with blanks between them and nothing else. Each of
them is cut from its own stretch of the text alone, and so are any of them that follow one another.
-/

namespace DocQuery

open Lexeme Token

namespace Token

theorem offset_of_readLink_error {embed : Bool} {lead : Nat} {cs : List Char} {f : FaultAt}
    (h : readLink embed lead cs = .error f) : f.offset = lead := by
  rw [readLink] at h
  split at h
  · cases h
    rfl
  · split at h <;> cases h
    rfl

theorem offset_of_readString_error {quote : Char} {cs : List Char} {f : FaultAt}
    (h : readString quote cs = .error f) : f.offset = 0 := by
  rw [readString] at h
  split at h <;> cases h
  rfl

theorem offset_of_readTag_error {cs : List Char} {f : FaultAt} (h : readTag cs = .error f) :
    f.offset = 0 := by
  rw [readTag] at h
  split at h <;> cases h
  rfl

/-- A word is never a fault. -/
theorem readWord_ne_error {now : Date} {cs : List Char} {f : FaultAt} : readWord now cs ≠ .error f := by
  rw [readWord]
  split <;> simp

/-- A fault lies at the front of the text, or at the brackets of an embedded link behind its mark. -/
theorem offset_of_readFront_error {now : Date} {c : Char} {cs : List Char} {f : FaultAt}
    (h : readFront now (c :: cs) = .error f) :
    f.offset = 0 ∨ f.offset = 1 ∧ ∃ rest, c :: cs = '!' :: '[' :: '[' :: rest := by
  unfold readFront at h
  split at h <;> cases ‹c :: cs = _›
  case h_26 => exact .inr ⟨offset_of_readLink_error h, _, rfl⟩
  case h_31 =>
      split at h
      · exact absurd h readWord_ne_error
      · split at h <;> cases h
        exact .inl rfl
  all_goals first
    | cases h
    | exact .inl (offset_of_readString_error h)
    | exact .inl (offset_of_readTag_error h)
    | exact .inl (offset_of_readLink_error h)

/-- A fault lies inside the text. -/
theorem offset_le_of_readFront_error {now : Date} {c : Char} {cs : List Char} {f : FaultAt}
    (h : readFront now (c :: cs) = .error f) : f.offset ≤ cs.length := by
  rcases offset_of_readFront_error h with hZero | ⟨hOne, rest, hText⟩
  · omega
  · rw [(List.cons.inj hText).2, hOne]
    exact Nat.succ_pos _

/-- No name begins where a fault begins, nor between there and its place. -/
theorem isNameStart_of_readFront_error {now : Date} {c : Char} {cs : List Char} {f : FaultAt}
    (h : readFront now (c :: cs) = .error f) {place : Nat} {d : Char} (hPlace : (c :: cs)[place]? = some d)
    (hUpTo : place ≤ f.offset) : isNameStart d = false := by
  rcases offset_of_readFront_error h with hZero | ⟨hOne, rest, hText⟩
  · obtain rfl : place = 0 := by omega
    cases hPlace
    refine Bool.eq_false_iff.mpr fun hStart => ?_
    rw [readFront_of_isNameStart hStart] at h
    exact readWord_ne_error h
  · rw [hText] at hPlace
    have hFirst : place = 0 ∨ place = 1 := by omega
    rcases hFirst with rfl | rfl <;> cases hPlace <;> rfl

/-- The name of a call is read as a name, unless a date or a span begins with it. -/
theorem readFront_call (now : Date) {name : String} (hShape : IsNameShaped name)
    (hOrdinary : Text.lower name ∉ constantWords) (behind : List Char) :
    readFront now (name.toList ++ '(' :: behind) =
      .ok ((readTemporal? now name ('(' :: behind)).getD (.identifier name, name.length)) := by
  have hStop : ∀ d ∈ ('(' :: behind).head?, isNamePart d = false := by
    rintro _ ⟨⟩
    rfl
  have hWord := readWord_before_stop now hShape.goesOn hStop
  obtain ⟨c, cs, hName, hStart⟩ := hShape.begins
  have hFront : readFront now (name.toList ++ '(' :: behind) = readWord now (name.toList ++ '(' :: behind) := by
    rw [hName]
    exact readFront_of_isNameStart hStart now _
  rw [hFront, hWord, String.ofList_toList, ofWord_of_ordinary hOrdinary, String.length_toList]
  cases readTemporal? now name ('(' :: behind) <;> rfl

end Token

namespace Lexeme

def Covers (u : Lexeme) (place : Nat) : Prop := u.start ≤ place ∧ place < u.stop

def chars (text : List Char) (u : Lexeme) : List Char := (text.drop u.start).take (u.stop - u.start)

end Lexeme

namespace Scan

variable {now : Date} {offset : Nat} {cs : List Char} {us : List Lexeme} {fault : Option FaultAt}

/-- The tokens of a text from an offset on, and the fault behind them if there is one. In front of each
token there may be blanks. -/
inductive Tiles (now : Date) : Nat → List Char → List Lexeme → Option FaultAt → Prop where
  | finish {offset gap} (blanks : ∀ d ∈ gap, Text.isBlank d = true) : Tiles now offset gap [] none
  | fault {offset gap c cs f} (blanks : ∀ d ∈ gap, Text.isBlank d = true)
      (begins : Text.isBlank c = false) (front : readFront now (c :: cs) = .error f) :
      Tiles now offset (gap ++ c :: cs) [] (some ⟨f.fault, offset + gap.length + f.offset⟩)
  | token {offset gap c word more t us fault} (blanks : ∀ d ∈ gap, Text.isBlank d = true)
      (begins : Text.isBlank c = false)
      (front : readFront now (c :: (word ++ more)) = .ok (t, word.length + 1))
      (others : Tiles now (offset + gap.length + (word.length + 1)) more us fault) :
      Tiles now offset (gap ++ c :: (word ++ more))
        (⟨t, offset + gap.length, offset + gap.length + (word.length + 1)⟩ :: us) fault

/-- Every text is tiled by the tokens that are found in it. The induction is on its length, since each token
leaves a shorter text. -/
theorem exists_tiles (now : Date) (offset : Nat) (cs : List Char) :
    ∃ us fault, Tiles now offset cs us fault := by
  induction hCount : cs.length using Nat.strong_induction_on generalizing offset cs with
  | _ count ih =>
      have hBlanks : ∀ d ∈ cs.takeWhile Text.isBlank, Text.isBlank d = true :=
        fun d hMem => List.mem_takeWhile_imp hMem
      have hHead := List.head?_dropWhile_not Text.isBlank cs
      have hSplit := List.takeWhile_append_dropWhile (p := Text.isBlank) (l := cs)
      generalize cs.takeWhile Text.isBlank = gap at hBlanks hSplit
      generalize cs.dropWhile Text.isBlank = rest at hHead hSplit
      subst hSplit
      cases rest with
      | nil => exact ⟨[], none, (List.append_nil gap).symm ▸ .finish hBlanks⟩
      | cons c behind =>
          cases hFront : readFront now (c :: behind) with
          | error f => exact ⟨[], _, .fault hBlanks hHead hFront⟩
          | ok result =>
              obtain ⟨t, length⟩ := result
              have hFronts := fronts_of_readFront hFront
              have hPos := hFronts.pos
              have hWithin := hFronts.within
              rw [List.length_cons] at hWithin
              obtain ⟨word, more, rfl, hLength⟩ : ∃ word more, behind = word ++ more ∧
                  length = word.length + 1 := by
                refine ⟨behind.take (length - 1), behind.drop (length - 1),
                  (List.take_append_drop ..).symm, ?_⟩
                rw [List.length_take]
                omega
              subst hLength
              have hFewer : more.length < count := by
                simp only [List.length_append, List.length_cons] at hCount
                omega
              obtain ⟨us, fault, hOthers⟩ :=
                ih more.length hFewer (offset + gap.length + (word.length + 1)) more rfl
              exact ⟨_, fault, .token hBlanks hHead hFront hOthers⟩

/-- The scan of some tokens and the fault behind them; without a fault they end with the text. -/
def ended (us : List Lexeme) (fault : Option FaultAt) (stop : Nat) : Scan :=
  match fault with
  | none => ⟨us ++ [⟨.finish, stop, stop⟩], none⟩
  | some f => ⟨us, some f⟩

theorem cons_ended (u : Lexeme) (us : List Lexeme) (fault : Option FaultAt) (stop : Nat) :
    (ended us fault stop).cons u = ended (u :: us) fault stop := by
  cases fault <;> rfl

/-- Blanks are passed over. -/
theorem run_blanks {gap : List Char} (hBlanks : ∀ d ∈ gap, Text.isBlank d = true) (cs : List Char)
    (offset : Nat) : run now 0 offset (gap ++ cs) = run now 0 (offset + gap.length) cs := by
  induction gap generalizing offset with
  | nil => rfl
  | cons d gap ih =>
      obtain ⟨hFirst, hOthers⟩ := List.forall_mem_cons.mp hBlanks
      rw [List.cons_append, run, if_pos hFirst, ih hOthers, List.length_cons]
      congr 1
      omega

/-- The scan of a text finds the tokens that tile it. -/
theorem Tiles.run_eq (h : Tiles now offset cs us fault) :
    run now 0 offset cs = ended us fault (offset + cs.length) := by
  induction h with
  | @finish offset gap blanks =>
      have hRun : run now 0 offset (gap ++ []) = _ := run_blanks blanks [] offset
      rw [List.append_nil] at hRun
      rw [hRun]
      rfl
  | fault blanks begins front =>
      rw [run_blanks blanks, run, if_neg (by rw [begins]; exact Bool.false_ne_true), front]
      rfl
  | @token offset gap c word more t us fault blanks begins front others ih =>
      have hToken := run_token begins front (offset + gap.length)
      rw [List.cons_append] at hToken
      rw [run_blanks blanks, hToken, ih, cons_ended]
      congr 1
      simp only [List.length_append, List.length_cons]
      omega

/-! Where the tokens lie. -/

/-- The tokens lie in the text, each with some characters. -/
theorem Tiles.spans (h : Tiles now offset cs us fault) :
    ∀ u ∈ us, offset ≤ u.start ∧ u.start < u.stop ∧ u.stop ≤ offset + cs.length := by
  induction h with
  | finish => exact List.forall_mem_nil _
  | fault => exact List.forall_mem_nil _
  | token blanks begins front others ih =>
      simp only [List.length_append, List.length_cons]
      refine List.forall_mem_cons.mpr ⟨?_, fun u hMem => ?_⟩
      · dsimp only
        omega
      obtain ⟨hStart, hSpan, hStop⟩ := ih u hMem
      exact ⟨by omega, hSpan, by omega⟩

/-- No token begins before the one in front of it ends. -/
theorem Tiles.ordered (h : Tiles now offset cs us fault) :
    us.Pairwise fun u w => u.stop ≤ w.start := by
  induction h with
  | finish => exact .nil
  | fault => exact .nil
  | token blanks begins front others ih =>
      exact List.pairwise_cons.mpr ⟨fun w hMem => (others.spans w hMem).1, ih⟩

theorem Tiles.notFinish (h : Tiles now offset cs us fault) : ∀ u ∈ us, u.token ≠ .finish := by
  induction h with
  | finish => exact List.forall_mem_nil _
  | fault => exact List.forall_mem_nil _
  | token blanks begins front others ih =>
      exact List.forall_mem_cons.mpr ⟨(fronts_of_readFront front).notFinish, ih⟩

theorem Tiles.length_le (h : Tiles now offset cs us fault) : us.length ≤ cs.length := by
  induction h with
  | finish => exact Nat.zero_le _
  | fault => exact Nat.zero_le _
  | token blanks begins front others ih =>
      simp only [List.length_append, List.length_cons]
      omega

/-- A fault lies behind all tokens and within the text. -/
theorem Tiles.fault_offset (h : Tiles now offset cs us fault) {f : FaultAt} (hFault : fault = some f) :
    (∀ u ∈ us, u.stop ≤ f.offset) ∧ offset ≤ f.offset ∧ f.offset < offset + cs.length := by
  induction h with
  | finish => cases hFault
  | fault blanks begins front =>
      cases hFault
      have hInside := offset_le_of_readFront_error front
      refine ⟨List.forall_mem_nil _, ?_⟩
      simp only [List.length_append, List.length_cons]
      omega
  | token blanks begins front others ih =>
      obtain ⟨hBehind, hFrom, hInside⟩ := ih hFault
      refine ⟨List.forall_mem_cons.mpr ⟨hFrom, hBehind⟩, ?_⟩
      simp only [List.length_append, List.length_cons]
      omega

theorem drop_behind (gap word more : List Char) (c : Char) (place : Nat) :
    (gap ++ c :: (word ++ more)).drop (gap.length + (word.length + 1) + place) = more.drop place := by
  have hText : gap ++ c :: (word ++ more) = (gap ++ c :: word) ++ more := by simp
  have hLength : gap.length + (word.length + 1) = (gap ++ c :: word).length := by simp
  rw [hText, hLength, List.drop_length_add_append]

theorem getElem?_behind (gap word more : List Char) (c : Char) (place : Nat) :
    (gap ++ c :: (word ++ more))[gap.length + (word.length + 1) + place]? = more[place]? := by
  rw [← List.head?_drop, drop_behind, List.head?_drop]

/-- No token begins or ends with a blank. -/
theorem Tiles.solid (h : Tiles now offset cs us fault) {u : Lexeme} (hMem : u ∈ us) {place : Nat} {d : Char}
    (hEnd : offset + place = u.start ∨ offset + place + 1 = u.stop) (hPlace : cs[place]? = some d) :
    Text.isBlank d = false := by
  induction h generalizing place with
  | finish => cases hMem
  | fault => cases hMem
  | @token offset gap c word more t us fault blanks begins front others ih =>
      rcases List.mem_cons.mp hMem with rfl | hMem
      · have hSolid := (fronts_of_readFront front).solid d
        have hInside : gap.length ≤ place := by
          dsimp only at hEnd
          omega
        rw [List.getElem?_append_right hInside] at hPlace
        rcases hEnd with hStart | hStop
        · have hFirst : place - gap.length = 0 := by
            dsimp only at hStart
            omega
          rw [hFirst] at hPlace
          cases hPlace
          exact begins
        · have hLast : place - gap.length = word.length + 1 - 1 := by
            dsimp only at hStop
            omega
          exact hSolid (hLast ▸ hPlace)
      · have hSpan := others.spans u hMem
        obtain ⟨further, rfl⟩ :=
          Nat.exists_eq_add_of_le (by omega : gap.length + (word.length + 1) ≤ place)
        rw [getElem?_behind] at hPlace
        exact ih hMem (by omega) hPlace

/-- A character outside all tokens is blank, or it lies behind all of them where the fault is. A name can
begin with it only behind the place of the fault. -/
theorem Tiles.outside (h : Tiles now offset cs us fault) {place : Nat} {d : Char}
    (hPlace : cs[place]? = some d) (hOutside : ∀ u ∈ us, ¬u.Covers (offset + place)) :
    Text.isBlank d = true ∨ ∃ f, fault = some f ∧ (∀ u ∈ us, u.stop ≤ offset + place) ∧
      (isNameStart d = true → f.offset < offset + place) := by
  induction h generalizing place with
  | finish blanks => exact .inl (blanks d (List.mem_of_getElem? hPlace))
  | @fault offset gap c cs f blanks begins front =>
      by_cases hGap : place < gap.length
      · rw [List.getElem?_append_left hGap] at hPlace
        exact .inl (blanks d (List.mem_of_getElem? hPlace))
      · rw [List.getElem?_append_right (Nat.le_of_not_lt hGap)] at hPlace
        refine .inr ⟨_, rfl, List.forall_mem_nil _, fun hStart => ?_⟩
        dsimp only
        by_contra hUpTo
        rw [isNameStart_of_readFront_error front hPlace (by omega)] at hStart
        cases hStart
  | @token offset gap c word more t us fault blanks begins front others ih =>
      obtain ⟨hFirst, hOthers⟩ := List.forall_mem_cons.mp hOutside
      rw [Covers] at hFirst
      dsimp only at hFirst
      by_cases hGap : place < gap.length
      · rw [List.getElem?_append_left hGap] at hPlace
        exact .inl (blanks d (List.mem_of_getElem? hPlace))
      · -- The place is not in the token, so that it lies behind it.
        obtain ⟨further, rfl⟩ := Nat.exists_eq_add_of_le (by omega : gap.length + (word.length + 1) ≤ place)
        have hBehind : offset + (gap.length + (word.length + 1) + further) =
            offset + gap.length + (word.length + 1) + further := by omega
        rw [hBehind] at hOthers ⊢
        rw [getElem?_behind] at hPlace
        refine (ih hPlace hOthers).imp_right ?_
        rintro ⟨f, hFault, hStops, hName⟩
        exact ⟨f, hFault, List.forall_mem_cons.mpr ⟨by dsimp only; omega, hStops⟩, hName⟩

/-- `Tiles.outside` for the characters of a whole text. -/
theorem Tiles.outside_text (h : Tiles now 0 cs us fault) {place : Nat} {d : Char}
    (hPlace : cs[place]? = some d) (hOutside : ∀ u ∈ us, ¬u.Covers place) :
    Text.isBlank d = true ∨ ∃ f, fault = some f ∧ (∀ u ∈ us, u.stop ≤ place) ∧
      (isNameStart d = true → f.offset < place) := by
  simpa only [Nat.zero_add] using h.outside hPlace (by rwa [Nat.zero_add])

/-- A text that begins with a parenthesis begins with that token. -/
theorem Tiles.mem_openParen {more : List Char} (h : Tiles now offset ('(' :: more) us fault) :
    ⟨.symbol .openParen, offset, offset + 1⟩ ∈ us := by
  have hRun := h.run_eq
  have hOpen : run now 0 offset (['('] ++ more) =
      (run now 0 (offset + 1) more).cons ⟨.symbol .openParen, offset, offset + 1⟩ :=
    run_token rfl rfl offset
  rw [← List.singleton_append, hOpen] at hRun
  have hLexemes := congrArg Scan.lexemes hRun
  cases us with
  | nil =>
      cases fault with
      | none => simp [ended, cons] at hLexemes
      | some f => simp [ended, cons] at hLexemes
  | cons u us =>
      have hFirst : (⟨.symbol .openParen, offset, offset + 1⟩ : Lexeme) = u := by
        cases fault <;> exact (List.cons.inj hLexemes).1
      exact hFirst ▸ List.mem_cons_self ..

/-! Parts of a tiling. -/

/-- From any token on, the text is tiled by that token and those behind it. -/
theorem Tiles.from_token {u : Lexeme} {vs : List Lexeme} (h : Tiles now offset cs (us ++ u :: vs) fault) :
    ∃ before behind, cs = before ++ behind ∧ u.start = offset + before.length ∧
      Tiles now u.start behind (u :: vs) fault := by
  induction us generalizing offset cs with
  | nil =>
      cases h with
      | token blanks begins front others =>
          exact ⟨_, _, rfl, rfl, .token (List.forall_mem_nil _) begins front others⟩
  | cons w us ih =>
      cases h with
      | @token _ gap c word more t _ _ blanks begins front others =>
          obtain ⟨before, behind, rfl, hStart, hTiles⟩ := ih others
          refine ⟨gap ++ c :: (word ++ before), behind, by simp, ?_, hTiles⟩
          simp only [List.length_append, List.length_cons]
          omega

/-- Up to the end of any token, the text is tiled by that token and those before it. -/
theorem Tiles.up_to_token {u : Lexeme} {vs : List Lexeme} (h : Tiles now offset cs (us ++ u :: vs) fault) :
    ∃ before behind, cs = before ++ behind ∧ u.stop = offset + before.length ∧
      Tiles now offset before (us ++ [u]) none ∧ Tiles now u.stop behind vs fault := by
  induction us generalizing offset cs with
  | nil =>
      cases h with
      | @token _ gap c word more t _ _ blanks begins front others =>
          have hAlone : readFront now (c :: (word ++ [])) = .ok (t, word.length + 1) := by
            rw [List.append_nil]
            exact readFront_of_append front (Nat.le_refl _)
          refine ⟨gap ++ c :: (word ++ []), more, by simp, ?_,
            .token blanks begins hAlone (.finish (List.forall_mem_nil _)), others⟩
          simp only [List.length_append, List.length_cons, List.length_nil]
          omega
  | cons w us ih =>
      cases h with
      | @token _ gap c word more t _ _ blanks begins front others =>
          obtain ⟨before, behind, rfl, hStop, hTiles, hOthers⟩ := ih others
          rw [← List.append_assoc] at front
          have hAlone := readFront_of_append front (by simp)
          refine ⟨gap ++ c :: (word ++ before), behind, by simp, ?_, .token blanks begins hAlone hTiles,
            hOthers⟩
          simp only [List.length_append, List.length_cons]
          omega

/-- A parenthesis behind a token is the next token. -/
theorem Tiles.mem_openParen_behind (h : Tiles now offset cs us fault) {u : Lexeme} (hMem : u ∈ us)
    {place : Nat} (hStop : u.stop = offset + place) (hOpen : cs[place]? = some '(') :
    ⟨.symbol .openParen, u.stop, u.stop + 1⟩ ∈ us := by
  obtain ⟨before, after, rfl⟩ := List.append_of_mem hMem
  obtain ⟨upTo, behind, rfl, hLength, -, hBehind⟩ := h.up_to_token
  obtain rfl : place = upTo.length := by omega
  rw [List.getElem?_append_right (Nat.le_refl _), Nat.sub_self, ← List.head?_eq_getElem?] at hOpen
  obtain ⟨more, rfl⟩ := List.head?_eq_some_iff.mp hOpen
  exact List.mem_append_right _ (List.mem_cons_of_mem u hBehind.mem_openParen)

/-- The first token is what is read at the front. -/
theorem Tiles.readFront_eq (h : Tiles now offset cs (u :: vs) fault) (hStart : u.start = offset) :
    ∃ c rest, cs = c :: rest ∧ readFront now (c :: rest) = .ok (u.token, u.stop - u.start) := by
  cases h with
  | @token _ gap c word more t _ _ blanks begins front others =>
      obtain rfl : gap = [] := List.eq_nil_of_length_eq_zero (Nat.add_eq_left.mp hStart)
      refine ⟨c, word ++ more, rfl, front.trans ?_⟩
      rw [Nat.add_sub_cancel_left]

/-- A word before a parenthesis is a token alone, unless it begins a date or a span. -/
theorem Tiles.word (h : Tiles now offset cs us fault) {u : Lexeme} (hMem : u ∈ us) {place : Nat}
    (hStart : u.start = offset + place) {name : String} (hShape : IsNameShaped name)
    (hOrdinary : Text.lower name ∉ constantWords) (hCall : name.toList ++ ['('] <+: cs.drop place) :
    (u.token = .identifier name ∧ u.stop = u.start + name.length) ∨ IsTemporal name u.token := by
  obtain ⟨before, after, rfl⟩ := List.append_of_mem hMem
  obtain ⟨front, behind, rfl, hLength, hFrom⟩ := h.from_token
  obtain rfl : place = front.length := by omega
  obtain ⟨c, chars, rfl, hFront⟩ := hFrom.readFront_eq rfl
  obtain ⟨rest, hText⟩ := hCall
  rw [List.append_assoc, List.singleton_append, List.drop_left] at hText
  rw [← hText, readFront_call now hShape hOrdinary, Except.ok.injEq] at hFront
  have hSpan := (hFrom.spans u (List.mem_cons_self ..)).2.1
  cases hRead : readTemporal? now name ('(' :: rest) with
  | none =>
      rw [hRead, Option.getD_none, Prod.mk.injEq] at hFront
      exact .inl ⟨hFront.1.symm, by omega⟩
  | some result =>
      rw [hRead, Option.getD_some] at hFront
      obtain ⟨-, -, -, hLiteral⟩ := readTemporal?_eq_some (hRead.trans (congrArg some hFront))
      exact .inr hLiteral

/-- The tokens of a text that names no date relative to the present do not depend on the present. -/
theorem Tiles.present (h : Tiles now offset cs us fault) (hNone : fault = none) (later : Date)
    (hAbsolute : ∀ u ∈ us, beginsWithRelativeDate (cs.drop (u.start - offset)) = false) :
    Tiles later offset cs us fault := by
  induction h with
  | finish blanks => exact .finish blanks
  | fault => cases hNone
  | @token offset gap c word more t us fault blanks begins front others ih =>
      obtain ⟨hFirst, hOthers⟩ := List.forall_mem_cons.mp hAbsolute
      rw [Nat.add_sub_cancel_left, List.drop_left] at hFirst
      refine .token blanks begins ((readFront_present hFirst now later).trans front)
        (ih hNone fun u hMem => ?_)
      have hStart := (others.spans u hMem).1
      have hPlace : u.start - offset =
          gap.length + (word.length + 1) + (u.start - (offset + gap.length + (word.length + 1))) := by
        omega
      rw [← hOthers u hMem, hPlace, drop_behind]

/-- The same tokens tile the same characters elsewhere. -/
theorem Tiles.unshift {distance start : Nat} (h : Tiles now start cs us fault) (hNone : fault = none)
    (hStart : start = distance + offset) :
    ∃ ws, us = ws.map (Lexeme.shift distance) ∧ Tiles now offset cs ws none := by
  induction h generalizing offset with
  | finish blanks => exact ⟨[], rfl, .finish blanks⟩
  | fault => cases hNone
  | @token start gap c word more t us fault blanks begins front others ih =>
      subst hStart
      have hBehind : distance + offset + gap.length + (word.length + 1) =
          distance + (offset + gap.length + (word.length + 1)) := by omega
      obtain ⟨ws, rfl, hOthers⟩ := ih hNone hBehind
      refine ⟨⟨t, offset + gap.length, offset + gap.length + (word.length + 1)⟩ :: ws, ?_,
        .token blanks begins front hOthers⟩
      simp only [List.map_cons, Lexeme.shift, ← Nat.add_assoc]

/-- Tokens that follow one another tile the characters from the first of them to the end of the last
one. -/
theorem Tiles.between {before used behind : List Lexeme} {u w : Lexeme}
    (h : Tiles now 0 cs (before ++ used ++ behind) fault) (hFirst : used.head? = some u)
    (hLast : used.getLast? = some w) :
    ∃ ws, used = ws.map (Lexeme.shift u.start) ∧
      Tiles now 0 ((cs.drop u.start).take (w.stop - u.start)) ws none := by
  obtain ⟨others, rfl⟩ := List.head?_eq_some_iff.mp hFirst
  rw [List.append_assoc, List.cons_append] at h
  obtain ⟨front, after, rfl, hStart, hFrom⟩ := h.from_token
  obtain ⟨init, hInit⟩ := List.getLast?_eq_some_iff.mp hLast
  rw [← List.cons_append, hInit, List.append_assoc, List.singleton_append] at hFrom
  obtain ⟨inside, rest, rfl, hStop, hUsed, -⟩ := hFrom.up_to_token
  rw [← hInit] at hUsed
  rw [Nat.zero_add] at hStart
  obtain ⟨ws, hShifted, hTiles⟩ := hUsed.unshift rfl (Nat.add_zero _).symm
  refine ⟨ws, hShifted, ?_⟩
  rwa [hStop, Nat.add_sub_cancel_left, hStart, List.drop_left, List.take_left]

/-- No blank stands at either end of the characters from a token to the end of a later one. -/
theorem Tiles.trim_between (h : Tiles now 0 cs us fault) {u w : Lexeme} (hFirst : u ∈ us) (hLast : w ∈ us) :
    Text.trim ((cs.drop u.start).take (w.stop - u.start)) = (cs.drop u.start).take (w.stop - u.start) := by
  refine Text.trim_eq_self_iff.mpr ⟨fun c hHead => ?_, fun c hEnd => ?_⟩
  · rw [Option.mem_def, List.head?_eq_getElem?, List.getElem?_take] at hHead
    split at hHead
    · rw [List.getElem?_drop, Nat.add_zero] at hHead
      exact h.solid hFirst (.inl (Nat.zero_add _)) hHead
    · cases hHead
  · obtain ⟨-, -, hStop⟩ := h.spans w hLast
    have hSome := List.length_pos_of_mem (List.mem_of_getLast? hEnd)
    rw [Option.mem_def, List.getLast?_eq_getElem?] at hEnd
    rw [List.length_take, List.length_drop] at hSome hEnd
    rw [List.getElem?_take_of_lt (by omega), List.getElem?_drop] at hEnd
    exact h.solid hLast (.inr (by omega)) hEnd

/-- A token is read again from its own characters. -/
theorem Tiles.run_chars (h : Tiles now 0 cs us fault) {u : Lexeme} (hMem : u ∈ us) {later : Date}
    (hPresent : later = now ∨ beginsWithRelativeDate (u.chars cs) = false) :
    run later 0 0 (u.chars cs) =
      ended [⟨u.token, 0, u.stop - u.start⟩] none (u.stop - u.start) := by
  obtain ⟨hSpan, hWithin⟩ := (h.spans u hMem).2
  obtain ⟨others, more, rfl⟩ := List.append_of_mem hMem
  rw [← List.singleton_append, ← List.append_assoc] at h
  obtain ⟨ws, hUsed, hTiles⟩ := h.between rfl rfl
  obtain ⟨v, rfl, hShift⟩ := List.map_eq_singleton_iff.mp hUsed.symm
  have hBegin : v = ⟨u.token, 0, u.stop - u.start⟩ := by
    obtain ⟨t, start, stop⟩ := v
    obtain ⟨hToken, hStart, hStop⟩ := Lexeme.mk.inj hShift
    rw [← hToken, ← hStop]
    congr 1
    · exact Nat.add_eq_left.mp hStart
    · exact (Nat.add_sub_cancel_left ..).symm
  have hLength : (u.chars cs).length = u.stop - u.start := by
    rw [chars, List.length_take, List.length_drop]
    omega
  have hLater : Tiles later 0 (u.chars cs) [v] none := by
    rcases hPresent with rfl | hAbsolute
    · exact hTiles
    · refine hTiles.present rfl later fun w hMem => ?_
      rw [List.mem_singleton.mp hMem, hBegin]
      exact hAbsolute
  rw [hLater.run_eq, Nat.zero_add, hLength, hBegin]

/-- Some tokens lie in a text one behind the other, with blanks between them and nothing else. -/
structure Tiled (now : Date) (text : List Char) (us : List Lexeme) : Prop where
  few : us.length ≤ text.length
  spans : ∀ u ∈ us, u.token ≠ .finish ∧ u.start < u.stop ∧ u.stop ≤ text.length
  ordered : us.Pairwise fun u w => u.stop ≤ w.start
  blank : ∀ place d, text[place]? = some d → (∃ u ∈ us, place < u.stop) → (∀ u ∈ us, ¬u.Covers place) →
    Text.isBlank d = true
  /-- Each token is read again from its own characters, at any time if it is no date relative to the
  present. -/
  alone : ∀ u ∈ us, ∀ later, (later = now ∨ beginsWithRelativeDate (u.chars text) = false) →
    ofText later (String.ofList (u.chars text)) =
      ⟨[⟨u.token, 0, u.stop - u.start⟩, ⟨.finish, u.stop - u.start, u.stop - u.start⟩], none⟩
  /-- A parenthesis behind a token is the next token, also behind a name with which a date or a span
  could begin. -/
  parenthesis : ∀ u ∈ us, text[u.stop]? = some '(' → ⟨.symbol .openParen, u.stop, u.stop + 1⟩ ∈ us
  /-- A word before a parenthesis is a token alone, so `date` and `dur` too where no literal begins with
  them. -/
  word : ∀ u ∈ us, ∀ name, IsNameShaped name → Text.lower name ∉ constantWords →
    name.toList ++ ['('] <+: text.drop u.start →
    (u.token = .identifier name ∧ u.stop = u.start + name.length) ∨ IsTemporal name u.token

/-- Tokens and gaps that make up a text from its first character on leave nothing of it unaccounted for. -/
theorem Tiles.tiled (h : Tiles now 0 cs us fault) : Tiled now cs us where
  few := h.length_le
  spans u hMem := ⟨h.notFinish u hMem, by simpa only [Nat.zero_add] using (h.spans u hMem).2⟩
  ordered := h.ordered
  blank place d hPlace hBefore hOutside := by
    obtain ⟨u, hMem, hBefore⟩ := hBefore
    rcases h.outside_text hPlace hOutside with hBlank | ⟨-, -, hStops, -⟩
    · exact hBlank
    · exact absurd (hStops u hMem) (Nat.not_le.mpr hBefore)
  alone u hMem later hPresent := by
    rw [ofText, String.toList_ofList]
    exact h.run_chars hMem hPresent
  parenthesis u hMem hOpen := h.mem_openParen_behind hMem (Nat.zero_add _).symm hOpen
  word u hMem name hShape hOrdinary hCall :=
    h.word hMem (Nat.zero_add _).symm hShape hOrdinary hCall

/-- The scan of any text comes to its end, which is that of the text, or to a fault. The tokens it finds
tile the text up to there, and no word before the fault is left out. -/
theorem ofText_tiled (now : Date) (text : String) :
    ∃ us, Tiled now text.toList us ∧
      ((ofText now text = ⟨us ++ [⟨.finish, text.toList.length, text.toList.length⟩], none⟩ ∧
          ∀ place d, text.toList[place]? = some d → (∀ u ∈ us, ¬u.Covers place) →
            Text.isBlank d = true) ∨
        ∃ f, ofText now text = ⟨us, some f⟩ ∧ (∀ u ∈ us, u.stop ≤ f.offset) ∧
          f.offset < text.toList.length ∧
          ∀ place d, text.toList[place]? = some d → isNameStart d = true →
            (∀ u ∈ us, ¬u.Covers place) → f.offset < place) := by
  obtain ⟨us, fault, hTiles⟩ := exists_tiles now 0 text.toList
  have hRun := hTiles.run_eq
  rw [Nat.zero_add] at hRun
  refine ⟨us, hTiles.tiled, ?_⟩
  cases fault with
  | none =>
      refine .inl ⟨hRun, fun place d hPlace hOutside => ?_⟩
      rcases hTiles.outside_text hPlace hOutside with hBlank | ⟨_, hNone, -⟩
      · exact hBlank
      · cases hNone
  | some f =>
      obtain ⟨hBehind, -, hInside⟩ := hTiles.fault_offset rfl
      rw [Nat.zero_add] at hInside
      refine .inr ⟨f, hRun, hBehind, hInside, fun place d hPlace hStart hOutside => ?_⟩
      rcases hTiles.outside_text hPlace hOutside with hBlank | ⟨_, hFault, -, hName⟩
      · rw [isBlank_of_isNameStart hStart] at hBlank
        cases hBlank
      · cases hFault
        exact hName hStart

end Scan
end DocQuery
