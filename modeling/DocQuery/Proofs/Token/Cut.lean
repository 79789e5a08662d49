import DocQuery.Proofs.Token.Scan

/-!
Cutting a text that goes on behind a blank. What was read at the front of a text is read there again when
more text follows, except that the parenthesis behind `date` and `dur` is searched for its end, which may
lie in the text that follows; so no parenthesis may be left open.
-/

namespace DocQuery

namespace Token

variable {now : Date} {c : Char} {cs : List Char} {t : Token} {length : Nat}

/-- A parenthesis that the text begins with is closed in it. -/
def FrontClosed (cs : List Char) : Prop := ∀ rest, cs = '(' :: rest → ')' ∈ rest

/-- What is known about a token of the given length at the front of a text. -/
structure Fronts (now : Date) (cs : List Char) (t : Token) (length : Nat) : Prop where
  pos : 0 < length
  within : length ≤ cs.length
  notFinish : t ≠ .finish
  closing : t = .symbol .closeParen → ')' ∈ cs
  solid : ∀ d, cs[length - 1]? = some d → Text.isBlank d = false
  stable : FrontClosed (cs.drop length) → ∀ {rest}, Apart rest →
    readFront now (cs ++ rest) = .ok (t, length)

/-! Symbols of one and of two characters. -/

/-- A symbol of one character needs no more than that. -/
theorem fronts_single {s : Symbol} (hRead : ∀ cs, readFront now (c :: cs) = .ok (.symbol s, 1))
    (hClosing : s = .closeParen → c = ')') (hSolid : Text.isBlank c = false)
    (hFront : readFront now (c :: cs) = .ok (t, length)) : Fronts now (c :: cs) t length := by
  cases (hRead cs).symm.trans hFront
  refine ⟨Nat.one_pos, by simp, nofun, fun hClose => ?_, by simp [hSolid], fun _ _ _ => hRead _⟩
  rw [hClosing (by simpa using hClose)]
  exact List.mem_cons_self ..

/-- What is put apart does not become the next character. -/
theorem head?_append_apart {next : Char} (hNext : next ≠ ' ') (hHead : cs.head? ≠ some next)
    {rest : List Char} (hRest : Apart rest) : (cs ++ rest).head? ≠ some next := by
  cases cs with
  | nil =>
      rcases hRest with rfl | ⟨more, rfl⟩
      · exact nofun
      · simpa using hNext.symm
  | cons d cs => exact hHead

/-- A symbol that a certain character behind it would change. -/
theorem fronts_lone {s : Symbol} {next : Char} (hNext : next ≠ ' ')
    (hRead : ∀ cs, cs.head? ≠ some next → readFront now (c :: cs) = .ok (.symbol s, 1))
    (hNotClosing : s ≠ .closeParen) (hSolid : Text.isBlank c = false) (hHead : cs.head? ≠ some next)
    (hFront : readFront now (c :: cs) = .ok (t, length)) : Fronts now (c :: cs) t length := by
  cases (hRead cs hHead).symm.trans hFront
  exact ⟨Nat.one_pos, by simp, nofun, by simp [hNotClosing], by simp [hSolid],
    fun _ _ hRest => hRead _ (head?_append_apart hNext hHead hRest)⟩

/-- A symbol with a longer form needs one character more. -/
theorem fronts_double {s s' : Symbol}
    (hDouble : ∀ cs, readFront now (c :: '=' :: cs) = .ok (.symbol s', 2))
    (hSingle : ∀ cs, cs.head? ≠ some '=' → readFront now (c :: cs) = .ok (.symbol s, 1))
    (hNotClosing : s ≠ .closeParen ∧ s' ≠ .closeParen) (hSolid : Text.isBlank c = false)
    (hFront : readFront now (c :: cs) = .ok (t, length)) : Fronts now (c :: cs) t length := by
  by_cases hHead : cs.head? = some '='
  · obtain ⟨cs, rfl⟩ := List.head?_eq_some_iff.mp hHead
    cases (hDouble cs).symm.trans hFront
    exact ⟨Nat.two_pos, by simp, nofun, by simp [hNotClosing.2], by simp +decide, fun _ _ _ => hDouble _⟩
  · exact fronts_lone (by decide) hSingle hNotClosing.1 hSolid hHead hFront

/-! Strings, links and tags. -/

/-- A string needs no more than its characters, and ends with its quote. -/
theorem readStringBody?_append {quote : Char} {body : List Char} (rest : List Char)
    (h : readStringBody? quote cs = some (body, length)) :
    readStringBody? quote (cs ++ rest) = some (body, length) ∧ length ≤ cs.length ∧ 0 < length ∧
      cs[length - 1]? = some quote := by
  fun_induction readStringBody? quote cs generalizing body length
  case case1 => cases h
  case case2 =>
      cases h
      exact ⟨readStringBody?_quote _, by simp⟩
  case case3 => cases h
  case case4 escaped more hQuote ih =>
      obtain ⟨⟨inner, n⟩, hInner, hBody⟩ := Option.map_eq_some_iff.mp h
      cases hBody
      obtain ⟨hMore, hWithin, hPos, hEnd⟩ := ih hInner
      refine ⟨?_, by simpa using hWithin, Nat.succ_pos _, ?_⟩
      · rw [List.cons_append, List.cons_append, readStringBody?_escape hQuote, hMore]
        rfl
      · rwa [← Nat.sub_add_cancel hPos]
  case case5 c more hQuote hEscape ih =>
      obtain ⟨⟨inner, n⟩, hInner, hBody⟩ := Option.map_eq_some_iff.mp h
      cases hBody
      obtain ⟨hMore, hWithin, hPos, hEnd⟩ := ih hInner
      refine ⟨?_, by simpa using hWithin, Nat.succ_pos _, ?_⟩
      · rw [List.cons_append, readStringBody?_plain hQuote hEscape, hMore]
        rfl
      · rwa [← Nat.sub_add_cancel hPos]

/-- A token that is a string needs no more than its characters. -/
theorem fronts_string {quote : Char}
    (hRead : ∀ cs, readFront now (quote :: cs) = readString quote cs) (hSolid : Text.isBlank quote = false)
    (hFront : readFront now (quote :: cs) = .ok (t, length)) : Fronts now (quote :: cs) t length := by
  rw [hRead, readString] at hFront
  split at hFront
  · next body n hBody =>
      cases hFront
      have hMore (rest : List Char) := readStringBody?_append rest hBody
      obtain ⟨-, hWithin, hPos, hEnd⟩ := hMore []
      refine ⟨by omega, by simpa using hWithin, nofun, nofun, fun d hLast => ?_, fun _ rest _ => ?_⟩
      · rw [Nat.add_sub_cancel, List.getElem?_cons, if_neg hPos.ne', hEnd] at hLast
        exact Option.some.inj hLast ▸ hSolid
      · rw [List.cons_append, hRead, readString, (hMore rest).1]
  · cases hFront

/-- The inside of a link needs no more than its characters, and ends before two brackets. -/
theorem linkInner?_append {inner : List Char} (rest : List Char) (h : linkInner? cs = some inner) :
    linkInner? (cs ++ rest) = some inner ∧ inner.length + 2 ≤ cs.length ∧
      cs[inner.length + 1]? = some ']' := by
  fun_induction linkInner? cs generalizing inner
  case case1 => cases h
  case case2 =>
      cases h
      exact ⟨rfl, by simp⟩
  case case3 c more hOpen ih =>
      obtain ⟨inner, hInner, rfl⟩ := Option.map_eq_some_iff.mp h
      obtain ⟨hMore, hWithin, hEnd⟩ := ih hInner
      refine ⟨?_, by simpa using hWithin, hEnd⟩
      -- The character behind a bracket is known, because the text does not end there.
      have hStill : ∀ tail, c = ']' → more ++ rest = ']' :: tail → False := by
        rintro tail rfl hNext
        cases more with
        | nil => cases hInner
        | cons d more =>
            cases hNext
            exact hOpen more rfl rfl
      rw [List.cons_append, linkInner?.eq_3 _ _ hStill, hMore]
      rfl

/-- A link needs no more than its characters, and ends with a bracket. -/
theorem readLink_append {embed : Bool} {lead : Nat} (h : readLink embed lead cs = .ok (t, length)) :
    (∃ inside, length = inside + lead + 4 ∧ cs[inside + 1]? = some ']' ∧ inside + 2 ≤ cs.length) ∧
      (∃ l, t = .link l) ∧ ∀ rest, readLink embed lead (cs ++ rest) = .ok (t, length) := by
  rw [readLink] at h
  split at h
  · cases h
  · next inner hInner =>
      split at h
      · cases h
      · next hSome =>
          cases h
          have hMore (rest : List Char) := linkInner?_append rest hInner
          obtain ⟨-, hWithin, hEnd⟩ := hMore []
          refine ⟨⟨inner.length, by omega, hEnd, hWithin⟩, ⟨_, rfl⟩, fun rest => ?_⟩
          rw [readLink, (hMore rest).1]
          exact if_neg hSome

/-- The last of the characters that go on with a token. -/
theorem solid_takeWhile {p : Char → Bool} (hSolid : ∀ d, p d = true → Text.isBlank d = false)
    (cs : List Char) {place : Nat} (hPlace : place < (cs.takeWhile p).length) {d : Char}
    (hChar : cs[place]? = some d) : Text.isBlank d = false := by
  rw [← List.takeWhile_append_dropWhile (p := p) (l := cs), List.getElem?_append_left hPlace] at hChar
  exact hSolid d (List.mem_takeWhile_imp (List.mem_of_getElem? hChar))

/-- A tag needs no more than its characters and what does not go on with it. -/
theorem fronts_tag (hFront : readFront now ('#' :: cs) = .ok (t, length)) :
    Fronts now ('#' :: cs) t length := by
  have hRead (cs : List Char) : readFront now ('#' :: cs) = readTag cs := rfl
  rw [hRead, readTag] at hFront
  split at hFront
  · cases hFront
  · next hSome =>
      cases hFront
      have hPos : 0 < (cs.takeWhile isTagPart).length :=
        List.length_pos_iff.mpr fun hNone => hSome (List.isEmpty_iff.mpr hNone)
      refine ⟨by omega, by simpa using (List.takeWhile_sublist _).length_le, nofun, nofun,
        fun d hLast => ?_, fun _ rest hRest => ?_⟩
      · rw [Nat.add_sub_cancel, List.getElem?_cons, if_neg hPos.ne'] at hLast
        exact solid_takeWhile (fun _ => isBlank_of_isTagPart) cs (Nat.sub_one_lt hPos.ne') hLast
      · rw [List.cons_append, hRead, readTag, takeWhile_append_apart (by decide) cs hRest]
        exact if_neg hSome

/-! Words. -/

theorem ofWord_cases (word : String) :
    ofWord word ≠ .finish ∧ ofWord word ≠ .symbol .closeParen := by
  unfold ofWord
  split <;> exact ⟨nofun, nofun⟩

/-- A character at which the search for the end of a parenthesis stops. -/
def stopsParenthesis (c : Char) : Bool := c = ')' || c = '(' || c = '"' || c = '\''

theorem parenthesized?_open (cs : List Char) : parenthesized? ('(' :: cs) =
    if (cs.dropWhile (!stopsParenthesis ·)).head? = some ')' then some (cs.takeWhile (!stopsParenthesis ·))
    else none :=
  rfl

theorem parenthesized?_of_ne (hOpen : c ≠ '(') (cs : List Char) : parenthesized? (c :: cs) = none := by
  simp [parenthesized?, hOpen]

/-- A parenthesis is closed when neither quote nor further parenthesis stands in it. -/
theorem parenthesized?_eq_some_iff {body : List Char} : parenthesized? cs = some body ↔
    ∃ rest, cs = '(' :: (body ++ ')' :: rest) ∧ ∀ d ∈ body, stopsParenthesis d = false := by
  constructor
  · intro h
    cases cs with
    | nil => cases h
    | cons c cs =>
        by_cases hOpen : c = '('
        · cases hOpen
          rw [parenthesized?_open] at h
          split at h
          · next hEnd =>
              cases h
              obtain ⟨rest, hRest⟩ := List.head?_eq_some_iff.mp hEnd
              refine ⟨rest, ?_, fun d hMem => by simpa using List.mem_takeWhile_imp hMem⟩
              rw [← hRest, List.takeWhile_append_dropWhile]
          · cases h
        · rw [parenthesized?_of_ne hOpen] at h
          cases h
  · rintro ⟨rest, rfl, hBody⟩
    have hGo : ∀ d ∈ body, (!stopsParenthesis d) = true := fun d hMem => by rw [hBody d hMem]; rfl
    have hTake : (body ++ ')' :: rest).takeWhile (!stopsParenthesis ·) = body := by
      rw [List.takeWhile_append_of_pos hGo, List.takeWhile_cons_of_neg (by decide),
        List.append_nil]
    have hDrop : (body ++ ')' :: rest).dropWhile (!stopsParenthesis ·) = ')' :: rest := by
      rw [List.dropWhile_append_of_pos hGo, List.dropWhile_cons_of_neg (by decide)]
    rw [parenthesized?_open, hTake, hDrop]
    exact if_pos rfl

/-- The search for the end of a parenthesis goes no further than to the first stop. -/
theorem parenthesized?_append_of_stop (hStop : ¬ ∀ d ∈ cs, (!stopsParenthesis d) = true) (rest : List Char) :
    parenthesized? ('(' :: (cs ++ rest)) = parenthesized? ('(' :: cs) := by
  have hDrop : cs.dropWhile (!stopsParenthesis ·) ≠ [] := by
    rwa [Ne, List.dropWhile_eq_nil_iff]
  have hTake : (cs.takeWhile (!stopsParenthesis ·)).length ≠ cs.length := by
    intro hLength
    have hWhole := (List.takeWhile_prefix (!stopsParenthesis ·)).eq_of_length hLength
    exact hStop (List.takeWhile_eq_self_iff.mp hWhole)
  have hBody : (cs ++ rest).takeWhile (!stopsParenthesis ·) = cs.takeWhile (!stopsParenthesis ·) := by
    rw [List.takeWhile_append, if_neg hTake]
  have hBehind : ((cs ++ rest).dropWhile (!stopsParenthesis ·)).head? =
      (cs.dropWhile (!stopsParenthesis ·)).head? := by
    obtain ⟨d, more, hStopped⟩ := List.exists_cons_of_ne_nil hDrop
    rw [List.dropWhile_append, if_neg (by simpa using hDrop), hStopped]
    rfl
  rw [parenthesized?_open, parenthesized?_open, hBody, hBehind]

/-- Whether a parenthesis is closed is decided inside the text, unless it ends too early. -/
theorem parenthesized?_append {rest : List Char} (hRest : Apart rest) (hClosed : FrontClosed cs) :
    parenthesized? (cs ++ rest) = parenthesized? cs := by
  cases cs with
  | nil => rcases hRest with rfl | ⟨more, rfl⟩ <;> rfl
  | cons c cs =>
      by_cases hOpen : c = '('
      · cases hOpen
        refine parenthesized?_append_of_stop (fun hAll => ?_) rest
        cases hAll ')' (hClosed cs rfl)
      · rw [List.cons_append, parenthesized?_of_ne hOpen, parenthesized?_of_ne hOpen]

/-- A text with a closed parenthesis in front holds both ends of it. -/
theorem closed_of_parenthesized? {body : List Char} (h : parenthesized? cs = some body) :
    FrontClosed cs ∧ body.length + 2 ≤ cs.length ∧ cs[body.length + 1]? = some ')' := by
  obtain ⟨rest, rfl, -⟩ := parenthesized?_eq_some_iff.mp h
  refine ⟨?_, by simp only [List.length_append, List.length_cons]; omega, by simp⟩
  rintro _ ⟨⟩
  simp

/-- A literal behind its name: a date behind `date`, a span behind `dur`. -/
def IsTemporal (name : String) (t : Token) : Prop :=
  (name = "date" ∧ ∃ d, t = .date d) ∨ (name = "dur" ∧ ∃ d, t = .duration d)

theorem IsTemporal.notOther {name : String} (h : IsTemporal name t) :
    t ≠ .finish ∧ t ≠ .symbol .closeParen ∧ ∀ other, t ≠ .identifier other := by
  obtain ⟨-, d, rfl⟩ | ⟨-, d, rfl⟩ := h <;> simp

/-- A date or a span is read from what stands between the parentheses behind its name. -/
theorem readTemporal?_eq_some {name : String} (h : readTemporal? now name cs = some (t, length)) :
    ∃ body, parenthesized? cs = some body ∧ length = name.length + body.length + 2 ∧ IsTemporal name t := by
  rw [readTemporal?] at h
  obtain ⟨body, hBody, h⟩ := Option.bind_eq_some_iff.mp h
  dsimp only at h
  refine ⟨body, hBody, ?_⟩
  split at h
  · obtain ⟨_, hDate, h⟩ := Option.bind_eq_some_iff.mp h
    obtain ⟨d, -, rfl⟩ := Option.map_eq_some_iff.mp hDate
    cases h
    exact ⟨rfl, .inl ⟨‹_›, d, rfl⟩⟩
  · split at h
    · obtain ⟨_, hSpan, h⟩ := Option.bind_eq_some_iff.mp h
      obtain ⟨d, -, rfl⟩ := Option.map_eq_some_iff.mp hSpan
      cases h
      exact ⟨rfl, .inr ⟨‹_›, d, rfl⟩⟩
    · cases h

/-- Whether a date or a span is read does not depend on what is put apart. -/
theorem readTemporal?_append {name : String} {rest : List Char} (hRest : Apart rest)
    (hClosed : FrontClosed cs) : readTemporal? now name (cs ++ rest) = readTemporal? now name cs := by
  rw [readTemporal?, readTemporal?, parenthesized?_append hRest hClosed]

theorem drop_length_takeWhile (p : Char → Bool) (cs : List Char) :
    cs.drop (cs.takeWhile p).length = cs.dropWhile p := by
  conv => lhs; arg 2; rw [← List.takeWhile_append_dropWhile (p := p) (l := cs)]
  exact List.drop_left

theorem length_takeWhile_le (p : Char → Bool) (cs : List Char) : (cs.takeWhile p).length ≤ cs.length :=
  (List.takeWhile_sublist _).length_le

/-- A word takes the characters of a name, and a date or span those of the parenthesis behind it too. -/
theorem readWord_append {rest : List Char} (hRest : Apart rest)
    (hClosed : FrontClosed (cs.dropWhile isNamePart)) : readWord now (cs ++ rest) = readWord now cs := by
  rw [readWord, readWord, takeWhile_append_apart (by decide) cs hRest,
    List.drop_append_of_le_length (length_takeWhile_le ..), drop_length_takeWhile,
    readTemporal?_append hRest hClosed]

/-- A word needs no more than its characters, unless a parenthesis behind it is still open. -/
theorem fronts_word (hStart : isNameStart c = true) (hFront : readFront now (c :: cs) = .ok (t, length)) :
    Fronts now (c :: cs) t length := by
  have hNonempty : 0 < ((c :: cs).takeWhile isNamePart).length := by
    rw [List.takeWhile_cons_of_pos (isNamePart_of_isNameStart hStart)]
    exact Nat.succ_pos _
  have hWithin := length_takeWhile_le isNamePart (c :: cs)
  have hDrop := drop_length_takeWhile isNamePart (c :: cs)
  rw [readFront_of_isNameStart hStart] at hFront
  have hStable : FrontClosed ((c :: cs).dropWhile isNamePart) → ∀ {rest}, Apart rest →
      readFront now (c :: cs ++ rest) = .ok (t, length) := fun hClosed rest hRest => by
    rw [List.cons_append, readFront_of_isNameStart hStart, ← List.cons_append,
      readWord_append hRest hClosed, hFront]
  rw [readWord] at hFront
  split at hFront
  · next result hTemporal =>
      cases hFront
      obtain ⟨body, hBody, rfl, hLiteral⟩ := readTemporal?_eq_some hTemporal
      obtain ⟨hFinish, hClose, -⟩ := hLiteral.notOther
      rw [hDrop] at hBody
      obtain ⟨hClosed, hBodyWithin, hEnd⟩ := closed_of_parenthesized? hBody
      rw [← hDrop, List.length_drop] at hBodyWithin
      rw [← hDrop, List.getElem?_drop] at hEnd
      refine ⟨?_, ?_, hFinish, fun h => absurd h hClose, fun d hLast => ?_, fun _ => hStable hClosed⟩
      · omega
      · rw [String.length_ofList]
        omega
      · rw [String.length_ofList] at hLast
        cases hEnd.symm.trans hLast
        rfl
  · cases hFront
    refine ⟨hNonempty, hWithin, (ofWord_cases _).1, fun h => absurd h (ofWord_cases _).2,
      fun d => solid_takeWhile (fun _ => isBlank_of_isNamePart) _ (Nat.sub_one_lt hNonempty.ne'), ?_⟩
    rwa [hDrop]

/-! Numbers. -/

/-- The digits behind the point, if a point comes next. -/
def fractionDigits (cs : List Char) : List Char :=
  match cs with
  | '.' :: more => more.takeWhile Char.isDigit
  | _ => []

/-- No digits are found in what is put apart. -/
theorem fractionDigits_append {rest : List Char} (hRest : Apart rest) (cs : List Char) :
    fractionDigits (cs ++ rest) = fractionDigits cs := by
  cases cs with
  | nil => rcases hRest with rfl | ⟨more, rfl⟩ <;> rfl
  | cons c cs =>
      by_cases hPoint : c = '.'
      · cases hPoint
        exact takeWhile_append_apart (by decide) cs hRest
      · simp [fractionDigits, hPoint]

theorem length_fractionDigits (cs : List Char) :
    (if (fractionDigits cs).isEmpty then 0 else (fractionDigits cs).length + 1) ≤ cs.length := by
  split
  · exact Nat.zero_le _
  · next hSome =>
      cases cs with
      | nil => exact absurd rfl hSome
      | cons c cs =>
          by_cases hPoint : c = '.'
          · cases hPoint
            exact Nat.succ_le_succ (length_takeWhile_le Char.isDigit cs)
          · simp [fractionDigits, hPoint] at hSome

/-- No blank ends a fraction. -/
theorem solid_fractionDigits (hSome : ¬(fractionDigits cs).isEmpty = true) {d : Char}
    (hChar : cs[(fractionDigits cs).length]? = some d) : Text.isBlank d = false := by
  cases cs with
  | nil => exact absurd rfl hSome
  | cons c cs =>
      by_cases hPoint : c = '.'
      · cases hPoint
        have hPos : 0 < (cs.takeWhile Char.isDigit).length :=
          List.length_pos_iff.mpr fun hNone => hSome (List.isEmpty_iff.mpr hNone)
        have hPlace : ('.' :: cs)[(cs.takeWhile Char.isDigit).length]? = some d := hChar
        rw [List.getElem?_cons, if_neg hPos.ne'] at hPlace
        exact solid_takeWhile (fun _ => Text.isBlank_of_isDigit) cs (Nat.sub_one_lt hPos.ne') hPlace
      · simp [fractionDigits, hPoint] at hSome

/-- A number is read from its whole digits and its fraction. -/
theorem readNumber_eq (cs : List Char) : readNumber cs =
    .ok (.number (Numeral.toNumber false
        ⟨natOfDigits (cs.takeWhile Char.isDigit ++ fractionDigits (cs.dropWhile Char.isDigit)),
          -(fractionDigits (cs.dropWhile Char.isDigit)).length⟩),
      (cs.takeWhile Char.isDigit).length +
        (if (fractionDigits (cs.dropWhile Char.isDigit)).isEmpty then 0
          else (fractionDigits (cs.dropWhile Char.isDigit)).length + 1)) :=
  rfl

/-- A number needs no more than its characters and what does not go on with it. -/
theorem fronts_number (hDigit : c.isDigit = true) (hFront : readFront now (c :: cs) = .ok (t, length)) :
    Fronts now (c :: cs) t length := by
  have hStable {rest : List Char} (hRest : Apart rest) :
      readFront now (c :: cs ++ rest) = .ok (t, length) := by
    rw [← hFront, List.cons_append, readFront_of_isDigit hDigit, readFront_of_isDigit hDigit,
      ← List.cons_append, readNumber_eq, readNumber_eq, takeWhile_append_apart (by decide) _ hRest,
      dropWhile_append_apart (by decide) _ hRest, fractionDigits_append hRest]
  rw [readFront_of_isDigit hDigit, readNumber_eq] at hFront
  cases hFront
  have hWhole : 0 < ((c :: cs).takeWhile Char.isDigit).length := by
    rw [List.takeWhile_cons_of_pos hDigit]
    exact Nat.succ_pos _
  have hFraction := length_fractionDigits ((c :: cs).dropWhile Char.isDigit)
  have hSplit := congrArg List.length
    (List.takeWhile_append_dropWhile (p := Char.isDigit) (l := c :: cs))
  rw [List.length_append] at hSplit
  refine ⟨by omega, by omega, nofun, nofun, fun d hLast => ?_, fun _ _ hRest => hStable hRest⟩
  split at hLast
  · exact solid_takeWhile (fun _ => Text.isBlank_of_isDigit) _ (Nat.sub_one_lt hWhole.ne') hLast
  · next hSome =>
      have hPlace : (c :: cs)[((c :: cs).takeWhile Char.isDigit).length +
          (fractionDigits ((c :: cs).dropWhile Char.isDigit)).length]? = some d := hLast
      rw [← List.getElem?_drop, drop_length_takeWhile] at hPlace
      exact solid_fractionDigits hSome hPlace

/-! Any token. -/

theorem readFront_openBracket (now : Date) (cs : List Char) (hHead : cs.head? ≠ some '[') :
    readFront now ('[' :: cs) = .ok (.symbol .openBracket, 1) := by
  rw [readFront]
  · rfl
  · rintro rest rfl
    exact hHead rfl

theorem readFront_bang (now : Date) (cs : List Char) (hLink : ¬∃ more, cs = '[' :: '[' :: more)
    (hHead : cs.head? ≠ some '=') : readFront now ('!' :: cs) = .ok (.symbol .bang, 1) := by
  rw [readFront]
  · rfl
  · rintro rest rfl
    exact hHead rfl
  · rintro rest rfl
    exact hLink ⟨rest, rfl⟩

/-- A bracket needs no more than what tells it from a link. -/
theorem fronts_bracket (hFront : readFront now ('[' :: cs) = .ok (t, length)) :
    Fronts now ('[' :: cs) t length := by
  by_cases hHead : cs.head? = some '['
  · obtain ⟨cs, rfl⟩ := List.head?_eq_some_iff.mp hHead
    have hRead (cs : List Char) : readFront now ('[' :: '[' :: cs) = readLink false 0 cs := rfl
    rw [hRead] at hFront
    obtain ⟨⟨inside, rfl, hEnd, hWithin⟩, ⟨l, rfl⟩, hMore⟩ := readLink_append hFront
    exact ⟨by omega, by simpa using hWithin, nofun, nofun, fun d hLast => by cases hEnd.symm.trans hLast; rfl,
      fun _ rest _ => (hRead _).trans (hMore rest)⟩
  · exact fronts_lone (by decide) (readFront_openBracket now) (by decide) (by decide) hHead hFront

/-- An exclamation mark needs no more than what tells it from a comparison or a link. -/
theorem fronts_bang (hFront : readFront now ('!' :: cs) = .ok (t, length)) :
    Fronts now ('!' :: cs) t length := by
  by_cases hLink : ∃ more, cs = '[' :: '[' :: more
  · obtain ⟨cs, rfl⟩ := hLink
    have hRead (cs : List Char) : readFront now ('!' :: '[' :: '[' :: cs) = readLink true 1 cs := rfl
    rw [hRead] at hFront
    obtain ⟨⟨inside, rfl, hEnd, hWithin⟩, ⟨l, rfl⟩, hMore⟩ := readLink_append hFront
    exact ⟨by omega, by simpa using hWithin, nofun, nofun, fun d hLast => by cases hEnd.symm.trans hLast; rfl,
      fun _ rest _ => (hRead _).trans (hMore rest)⟩
  by_cases hHead : cs.head? = some '='
  · obtain ⟨cs, rfl⟩ := List.head?_eq_some_iff.mp hHead
    have hRead (cs : List Char) : readFront now ('!' :: '=' :: cs) = .ok (.symbol .notEqual, 2) := rfl
    cases (hRead cs).symm.trans hFront
    exact ⟨Nat.two_pos, by simp, nofun, nofun, by simp +decide, fun _ _ _ => hRead _⟩
  · cases (readFront_bang now cs hLink hHead).symm.trans hFront
    refine ⟨Nat.one_pos, by simp, nofun, nofun, by simp +decide, fun _ rest hRest => ?_⟩
    refine readFront_bang now _ (fun ⟨more, hMore⟩ => ?_) (head?_append_apart (by decide) hHead hRest)
    -- Both brackets stand in the text itself, because what follows it begins with a blank.
    match cs, hRest with
    | [], .inr ⟨_, _⟩ => simp_all
    | [d], .inl _ => simp_all
    | [d], .inr ⟨_, _⟩ => simp_all
    | d :: e :: cs, _ =>
        cases hMore
        exact hLink ⟨cs, rfl⟩

theorem readFront_comparison {s : Symbol} (hSign : (c, s) ∈ [('=', .equal), ('>', .greater), ('<', .less)])
    (now : Date) (cs : List Char) (hHead : cs.head? ≠ some '=') :
    readFront now (c :: cs) = .ok (.symbol s, 1) := by
  have hNot : ∀ rest, cs ≠ '=' :: rest := by
    rintro rest rfl
    exact hHead rfl
  fin_cases hSign
  all_goals
    rw [readFront]
    · rfl
    · exact hNot

/-- Every token needs no more than its characters and what does not go on with it. The cases are those of
the first character. -/
theorem fronts_of_readFront (hFront : readFront now (c :: cs) = .ok (t, length)) :
    Fronts now (c :: cs) t length := by
  by_cases hMark : c ∈ marks
  · have hEqual := readFront_comparison (by decide : ('=', Symbol.equal) ∈ _) now
    have hGreater := readFront_comparison (by decide : ('>', Symbol.greater) ∈ _) now
    have hLess := readFront_comparison (by decide : ('<', Symbol.less) ∈ _) now
    fin_cases hMark
    all_goals first
      | exact fronts_single (fun _ => rfl) (by decide) (by decide) hFront
      | exact fronts_string (fun _ => rfl) (by decide) hFront
      | exact fronts_tag hFront
      | exact fronts_bracket hFront
      | exact fronts_bang hFront
      | exact fronts_double (fun _ => rfl) hEqual (by decide) (by decide) hFront
      | exact fronts_double (fun _ => rfl) hGreater (by decide) (by decide) hFront
      | exact fronts_double (fun _ => rfl) hLess (by decide) (by decide) hFront
  · rw [readFront_of_not_mark hMark] at hFront
    split at hFront
    · next hStart => exact fronts_word hStart ((readFront_of_isNameStart hStart now cs).trans hFront)
    · split at hFront
      · next hDigit => exact fronts_number hDigit ((readFront_of_isDigit hDigit now cs).trans hFront)
      · cases hFront

end Token

namespace Lexeme

/-- Behind each opening parenthesis stands a closing one. -/
def Closed : List Lexeme → Prop
  | [] => True
  | t :: rest =>
    (t.token = .symbol .openParen → ∃ u ∈ rest, u.token = .symbol .closeParen) ∧ Closed rest

/-- All tokens lie in a text of a given length. -/
def Within (length : Nat) (us : List Lexeme) : Prop := ∀ u ∈ us, u.stop ≤ length

/-- The same token in a text with so many characters in front. -/
def shift (distance : Nat) (t : Lexeme) : Lexeme := ⟨t.token, distance + t.start, distance + t.stop⟩

end Lexeme

namespace Scan

open Token Lexeme

variable {now : Date} {skip offset : Nat} {cs : List Char} {ts : List Lexeme}

def prepend (us : List Lexeme) (s : Scan) : Scan := ⟨us ++ s.lexemes, s.fault⟩

/-- What is known about the tokens of a text that is cut without a fault. -/
structure Cuts (now : Date) (skip offset : Nat) (cs : List Char) (us : List Lexeme) : Prop where
  run : run now skip offset cs = ⟨us ++ [⟨.finish, offset + cs.length, offset + cs.length⟩], none⟩
  notFinish : ∀ u ∈ us, u.token ≠ .finish
  stop_le : ∀ u ∈ us, u.stop ≤ offset + cs.length
  closing : ∀ u ∈ us, u.token = .symbol .closeParen → ')' ∈ cs.drop skip
  append : Closed us → ∀ {rest}, Apart rest →
    Scan.run now skip offset (cs ++ rest) = (Scan.run now 0 (offset + cs.length) rest).prepend us

/-- In front of an opening parenthesis the first token is that parenthesis. -/
theorem run_open {more : List Char} (hOpen : cs.drop skip = '(' :: more) (now : Date) (offset : Nat) :
    ∃ start stop others,
      (run now skip offset cs).lexemes = ⟨.symbol .openParen, start, stop⟩ :: others := by
  have hWithin : (cs.take skip).length = skip := by
    have hLength := congrArg List.length hOpen
    rw [List.length_drop, List.length_cons] at hLength
    rw [List.length_take]
    omega
  have hRun : run now (cs.take skip).length offset (cs.take skip ++ '(' :: more) = _ := run_skip _ _ _
  rw [← hOpen, List.take_append_drop, hWithin] at hRun
  rw [hRun, hOpen]
  exact ⟨_, _, _, rfl⟩

/-- A text whose tokens close their parentheses closes the one in front. -/
theorem Cuts.frontClosed {us : List Lexeme} (h : Cuts now skip offset cs us) (hClosed : Closed us) :
    FrontClosed (cs.drop skip) := by
  intro more hOpen
  obtain ⟨start, stop, others, hFirst⟩ := run_open hOpen now offset
  rw [h.run] at hFirst
  cases us with
  | nil => cases hFirst
  | cons u us =>
      cases hFirst
      obtain ⟨w, hMem, hClose⟩ := hClosed.1 rfl
      have hIn := h.closing w (List.mem_cons_of_mem _ hMem) hClose
      rw [hOpen] at hIn
      exact List.mem_of_ne_of_mem (by decide) hIn

theorem Cuts.behind {skip' : Nat} {c : Char} {us : List Lexeme} (h : Cuts now skip (offset + 1) cs us)
    (hStep : ∀ cs, Scan.run now skip' offset (c :: cs) = Scan.run now skip (offset + 1) cs)
    (hDrop : ∀ d ∈ cs.drop skip, d ∈ (c :: cs).drop skip') : Cuts now skip' offset (c :: cs) us := by
  have hStop : offset + (c :: cs).length = offset + 1 + cs.length := by
    rw [List.length_cons]
    omega
  refine ⟨?_, h.notFinish, hStop ▸ h.stop_le, fun u hMem hClose => hDrop _ (h.closing u hMem hClose),
    fun hClosed rest hRest => ?_⟩
  · rw [hStep, h.run, hStop]
  · rw [List.cons_append, hStep, h.append hClosed hRest, hStop]

/-- A token in front of a text that is cut cuts it too. -/
theorem Cuts.token {c : Char} {us : List Lexeme} {t : Token} {length : Nat}
    (h : Cuts now (length - 1) (offset + 1) cs us) (hBlank : Text.isBlank c = false)
    (hFront : readFront now (c :: cs) = .ok (t, length)) :
    Cuts now 0 offset (c :: cs) (⟨t, offset, offset + length⟩ :: us) := by
  have hFronts := fronts_of_readFront hFront
  have hPos := hFronts.pos
  have hWithin := hFronts.within
  have hStop : offset + (c :: cs).length = offset + 1 + cs.length := by
    rw [List.length_cons]
    omega
  have hStep {cs : List Char} (hFront : readFront now (c :: cs) = .ok (t, length)) :
      Scan.run now 0 offset (c :: cs) =
        (Scan.run now (length - 1) (offset + 1) cs).cons ⟨t, offset, offset + length⟩ := by
    rw [Scan.run, if_neg (by rw [hBlank]; exact Bool.false_ne_true), hFront]
  have hDrop : (c :: cs).drop length = cs.drop (length - 1) := by
    obtain ⟨n, rfl⟩ := Nat.exists_eq_succ_of_ne_zero (Nat.pos_iff_ne_zero.mp hPos)
    rfl
  refine ⟨?_, List.forall_mem_cons.mpr ⟨hFronts.notFinish, h.notFinish⟩,
    List.forall_mem_cons.mpr ⟨Nat.add_le_add_left hWithin offset, hStop ▸ h.stop_le⟩,
    List.forall_mem_cons.mpr ⟨hFronts.closing, fun u hMem hClose =>
      List.mem_cons_of_mem c (List.mem_of_mem_drop (h.closing u hMem hClose))⟩,
    fun hClosed rest hRest => ?_⟩
  · rw [hStep hFront, h.run, hStop]
    rfl
  · -- No parenthesis is open behind the token, because the tokens that follow it close all of theirs.
    have hMore := hFronts.stable (hDrop ▸ h.frontClosed hClosed.2) hRest
    rw [List.cons_append] at hMore ⊢
    rw [hStep hMore, h.append hClosed.2 hRest, hStop]
    rfl

/-- The scan of a text without a fault cuts it into tokens. -/
theorem exists_cuts (hSkip : skip ≤ cs.length) (hRun : (run now skip offset cs).fault = none) :
    ∃ us, Cuts now skip offset cs us := by
  fun_induction run now skip offset cs
  case case1 skip offset =>
      cases Nat.le_zero.mp hSkip
      exact ⟨[], rfl, List.forall_mem_nil _, List.forall_mem_nil _, List.forall_mem_nil _,
        fun _ _ _ => rfl⟩
  case case2 skip offset c cs ih =>
      obtain ⟨us, h⟩ := ih (Nat.le_of_succ_le_succ hSkip) hRun
      exact ⟨us, h.behind (fun _ => rfl) fun _ hMem => hMem⟩
  case case3 offset c cs hBlank ih =>
      obtain ⟨us, h⟩ := ih (Nat.zero_le _) hRun
      exact ⟨us, h.behind (fun _ => if_pos hBlank) fun _ hMem => List.mem_cons_of_mem c hMem⟩
  case case4 offset c cs hBlank t length hFront ih =>
      have hFronts := fronts_of_readFront hFront
      obtain ⟨us, h⟩ := ih (Nat.sub_le_of_le_add hFronts.within) hRun
      exact ⟨_, h.token (Bool.eq_false_iff.mpr hBlank) hFront⟩
  case case5 => cases hRun

/-! Cutting does not depend on where a text stands. -/

/-- The scan of a text with so many characters in front. -/
def shift (distance : Nat) (s : Scan) : Scan :=
  ⟨s.lexemes.map (Lexeme.shift distance), s.fault.map fun f => ⟨f.fault, distance + f.offset⟩⟩

/-- The same text further on has the same tokens further on. -/
theorem run_shift (distance : Nat) :
    run now skip (distance + offset) cs = (run now skip offset cs).shift distance := by
  fun_induction run now skip offset cs
  case case1 => rfl
  case case2 skip offset c cs ih => exact ih
  case case3 offset c cs hBlank ih =>
      rw [run, if_pos hBlank]
      exact ih
  case case4 offset c cs hBlank t length hFront ih =>
      rw [run, if_neg hBlank, hFront]
      dsimp only
      rw [Nat.add_assoc, Nat.add_assoc, ih]
      rfl
  case case5 offset c cs hBlank f hFront =>
      rw [run, if_neg hBlank, hFront]
      exact congrArg (fun place => (⟨[], some ⟨f.fault, place⟩⟩ : Scan)) (Nat.add_assoc ..)

theorem run_eq_shift (now : Date) (skip distance : Nat) (cs : List Char) :
    run now skip distance cs = (run now skip 0 cs).shift distance := by
  rw [← run_shift, Nat.add_zero]

/-- No token begins before the scan does. -/
theorem offset_le_start {t : Lexeme} (hMem : t ∈ (run now skip offset cs).lexemes) : offset ≤ t.start := by
  fun_induction run now skip offset cs
  case case1 =>
      cases List.mem_singleton.mp hMem
      exact Nat.le_refl _
  case case2 skip offset c cs ih => exact Nat.le_of_succ_le (ih hMem)
  case case3 offset c cs hBlank ih => exact Nat.le_of_succ_le (ih hMem)
  case case4 offset c cs hBlank token length hFront ih =>
      rcases List.mem_cons.mp hMem with rfl | hMem
      · exact Nat.le_refl _
      · exact Nat.le_of_succ_le (ih hMem)
  case case5 => cases hMem

/-- A text of which no parenthesis is left open gives the same tokens wherever it stands and whatever
follows behind a blank. -/
theorem Cuts.run_append {us : List Lexeme} (h : Cuts now 0 0 cs us) (hClosed : Closed us)
    {rest : List Char} (hRest : Apart rest) (distance : Nat) : Scan.run now 0 distance (cs ++ rest) =
      (Scan.run now 0 (distance + cs.length) rest).prepend (us.map (Lexeme.shift distance)) := by
  have hWhole := h.append hClosed hRest
  rw [Nat.zero_add] at hWhole
  calc Scan.run now 0 distance (cs ++ rest)
      = (Scan.run now 0 0 (cs ++ rest)).shift distance := run_eq_shift ..
    _ = ((Scan.run now 0 cs.length rest).shift distance).prepend (us.map (Lexeme.shift distance)) := by
      rw [hWhole, shift, prepend, List.map_append]
      rfl
    _ = (Scan.run now 0 (distance + cs.length) rest).prepend (us.map (Lexeme.shift distance)) := by
      rw [run_shift]

/-- The tokens of a text are those of the same text elsewhere. -/
theorem Cuts.run_alone {us : List Lexeme} (h : Cuts now 0 0 cs us) (distance : Nat) :
    Scan.run now 0 distance cs = ⟨us.map (Lexeme.shift distance) ++
      [⟨.finish, distance + cs.length, distance + cs.length⟩], none⟩ := by
  have hRun := h.run
  rw [Nat.zero_add] at hRun
  calc Scan.run now 0 distance cs
      = (Scan.run now 0 0 cs).shift distance := run_eq_shift ..
    _ = _ := by
      rw [hRun, shift, List.map_append]
      rfl

theorem Cuts.within {us : List Lexeme} (h : Cuts now 0 0 cs us) : Within cs.length us := by
  have hStop := h.stop_le
  rwa [Nat.zero_add] at hStop

theorem exists_cuts_of_fault {distance : Nat} (hRun : (run now 0 distance cs).fault = none) :
    ∃ us, Cuts now 0 0 cs us := by
  rw [run_eq_shift] at hRun
  exact exists_cuts (Nat.zero_le _) (Option.map_eq_none_iff.mp hRun)

end Scan

end DocQuery
