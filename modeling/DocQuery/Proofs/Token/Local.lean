import DocQuery.Proofs.Token.Cut

/-!
What is read at the front of a text needs no more of the text than its own characters: where the text is
cut off behind them, the same token is read. Beside the text only the names of dates around the present
depend on the present.
-/

namespace DocQuery

namespace Date

def relativeNames : List String :=
  ["now", "today", "yesterday", "tomorrow", "sow", "eow", "som", "eom", "soy", "eoy"]

/-- Only the relative names depend on the present. -/
theorem named?_eq_none {name : String} (h : name ∉ relativeNames) (now : Date) :
    named? now name = none := by
  rw [named?.eq_def]
  split
  case h_11 => rfl
  all_goals exact absurd (by decide) h

end Date

namespace Token

variable {now : Date} {c : Char} {cs : List Char} {t : Token} {length : Nat}

/-- A token that begins with a character is read from its own characters alone. -/
def StandsAlone (now : Date) (c : Char) : Prop :=
  ∀ {cs rest t length}, readFront now (c :: (cs ++ rest)) = .ok (t, length) → length ≤ cs.length + 1 →
    readFront now (c :: cs) = .ok (t, length)

/-! Symbols of one and of two characters. -/

/-- A symbol of one character stands alone. -/
theorem standsAlone_single {s : Symbol} (hRead : ∀ cs, readFront now (c :: cs) = .ok (.symbol s, 1)) :
    StandsAlone now c :=
  fun hFront _ => (hRead _).trans ((hRead _).symm.trans hFront)

theorem head?_ne_of_append {next : Char} {rest : List Char} (hHead : (cs ++ rest).head? ≠ some next) :
    cs.head? ≠ some next := by
  cases cs with
  | nil => exact nofun
  | cons d cs => exact hHead

/-- A character that belongs to the token stands in front of the place where the text is cut. -/
theorem exists_of_head?_append {next : Char} {rest : List Char} (hHead : (cs ++ rest).head? = some next)
    (hLength : 2 ≤ cs.length + 1) : ∃ more, cs = next :: more := by
  cases cs with
  | nil => exact absurd hLength (by decide)
  | cons d cs =>
      cases hHead
      exact ⟨cs, rfl⟩

/-- A symbol with a longer form stands alone, unless the second character is cut off. -/
theorem standsAlone_double {s s' : Symbol}
    (hDouble : ∀ cs, readFront now (c :: '=' :: cs) = .ok (.symbol s', 2))
    (hSingle : ∀ cs, cs.head? ≠ some '=' → readFront now (c :: cs) = .ok (.symbol s, 1)) :
    StandsAlone now c := by
  intro cs rest t length hFront hLength
  by_cases hHead : (cs ++ rest).head? = some '='
  · obtain ⟨more, hMore⟩ := List.head?_eq_some_iff.mp hHead
    rw [hMore] at hFront
    cases (hDouble more).symm.trans hFront
    obtain ⟨more, rfl⟩ := exists_of_head?_append hHead hLength
    exact hDouble more
  · cases (hSingle _ hHead).symm.trans hFront
    exact hSingle cs (head?_ne_of_append hHead)

/-! Strings, links and tags. -/

theorem pos_of_readStringBody? {quote : Char} {body : List Char}
    (h : readStringBody? quote cs = some (body, length)) : 0 < length := by
  fun_induction readStringBody? quote cs generalizing body length
  case case1 => cases h
  case case2 =>
      cases h
      exact Nat.one_pos
  case case3 => cases h
  case case4 =>
      obtain ⟨_, -, hBody⟩ := Option.map_eq_some_iff.mp h
      cases hBody
      exact Nat.succ_pos _
  case case5 =>
      obtain ⟨_, -, hBody⟩ := Option.map_eq_some_iff.mp h
      cases hBody
      exact Nat.succ_pos _

/-- A string that ends in the front part is read from that part. -/
theorem readStringBody?_of_append {quote : Char} {body rest : List Char}
    (h : readStringBody? quote (cs ++ rest) = some (body, length)) (hLength : length ≤ cs.length) :
    readStringBody? quote cs = some (body, length) := by
  fun_induction readStringBody? quote cs generalizing body length
  case case1 => exact absurd (pos_of_readStringBody? h) (Nat.not_lt.mpr hLength)
  case case2 => rwa [List.cons_append, readStringBody?_quote] at h
  case case3 hQuote =>
      cases rest with
      | nil => simp [readStringBody?, hQuote] at h
      | cons escaped more =>
          rw [List.cons_append, List.nil_append, readStringBody?_escape hQuote] at h
          obtain ⟨_, -, hBody⟩ := Option.map_eq_some_iff.mp h
          cases hBody
          exact absurd hLength (by simp)
  case case4 escaped more hQuote ih =>
      rw [List.cons_append, List.cons_append, readStringBody?_escape hQuote] at h
      obtain ⟨⟨inner, n⟩, hInner, hBody⟩ := Option.map_eq_some_iff.mp h
      cases hBody
      rw [ih hInner (by simpa using hLength)]
      rfl
  case case5 c more hQuote hEscape ih =>
      rw [List.cons_append, readStringBody?_plain hQuote hEscape] at h
      obtain ⟨⟨inner, n⟩, hInner, hBody⟩ := Option.map_eq_some_iff.mp h
      cases hBody
      rw [ih hInner (by simpa using hLength)]
      rfl

theorem standsAlone_string (hRead : ∀ cs, readFront now (c :: cs) = readString c cs) :
    StandsAlone now c := by
  intro cs rest t length hFront hLength
  rw [hRead, readString] at hFront
  split at hFront
  · next body n hBody =>
      cases hFront
      rw [hRead, readString, readStringBody?_of_append hBody (Nat.le_of_succ_le_succ hLength)]
  · cases hFront

/-- The inside of a link that ends in the front part is read from that part. -/
theorem linkInner?_of_append {inner rest : List Char} (h : linkInner? (cs ++ rest) = some inner)
    (hLength : inner.length + 2 ≤ cs.length) : linkInner? cs = some inner := by
  fun_induction linkInner? cs generalizing inner
  case case1 => exact absurd hLength (by simp)
  case case2 => exact h
  case case3 c more hOpen ih =>
      -- Two brackets end the link, and with more than them left the second stands in front of the cut.
      have hStill : ∀ tail, c = ']' → more ++ rest = ']' :: tail → False := by
        rintro tail rfl hNext
        cases more with
        | nil => exact absurd hLength (by simp)
        | cons d more =>
            cases hNext
            exact hOpen more rfl rfl
      rw [List.cons_append, linkInner?.eq_3 _ _ hStill] at h
      obtain ⟨inner, hInner, rfl⟩ := Option.map_eq_some_iff.mp h
      rw [ih hInner (by simpa using hLength)]
      rfl

/-- A link that ends in the front part is read from that part. -/
theorem readLink_of_append {embed : Bool} {lead : Nat} {rest : List Char}
    (h : readLink embed lead (cs ++ rest) = .ok (t, length)) :
    2 + lead < length ∧ (length ≤ cs.length + lead + 2 → readLink embed lead cs = .ok (t, length)) := by
  rw [readLink] at h
  split at h
  · cases h
  · next inner hInner =>
      split at h
      · cases h
      · next hSome =>
          cases h
          refine ⟨by omega, fun hLength => ?_⟩
          rw [readLink, linkInner?_of_append hInner (by omega)]
          exact if_neg hSome

theorem standsAlone_bracket : StandsAlone now '[' := by
  have hLink (cs : List Char) : readFront now ('[' :: '[' :: cs) = readLink false 0 cs := rfl
  intro cs rest t length hFront hLength
  by_cases hHead : (cs ++ rest).head? = some '['
  · obtain ⟨more, hMore⟩ := List.head?_eq_some_iff.mp hHead
    have hLong : 2 < length := by
      rw [hMore, hLink, ← List.append_nil more] at hFront
      exact (readLink_of_append hFront).1
    obtain ⟨cs, rfl⟩ := exists_of_head?_append hHead (by omega)
    exact (readLink_of_append hFront).2 (by simpa using hLength)
  · cases (readFront_openBracket now _ hHead).symm.trans hFront
    exact readFront_openBracket now cs (head?_ne_of_append hHead)

theorem standsAlone_bang : StandsAlone now '!' := by
  have hLink (cs : List Char) : readFront now ('!' :: '[' :: '[' :: cs) = readLink true 1 cs := rfl
  have hDouble (cs : List Char) : readFront now ('!' :: '=' :: cs) = .ok (.symbol .notEqual, 2) := rfl
  intro cs rest t length hFront hLength
  by_cases hOpen : ∃ more, cs ++ rest = '[' :: '[' :: more
  · obtain ⟨more, hMore⟩ := hOpen
    have hLong : 3 < length := by
      rw [hMore, hLink, ← List.append_nil more] at hFront
      exact (readLink_of_append hFront).1
    obtain ⟨cs, rfl⟩ := exists_of_head?_append (List.head?_eq_some_iff.mpr ⟨_, hMore⟩) (by omega)
    have hInner := (List.cons.inj hMore).2
    rw [List.length_cons] at hLength
    obtain ⟨cs, rfl⟩ := exists_of_head?_append (List.head?_eq_some_iff.mpr ⟨_, hInner⟩) (by omega)
    exact (readLink_of_append hFront).2 (by simpa using hLength)
  by_cases hHead : (cs ++ rest).head? = some '='
  · obtain ⟨more, hMore⟩ := List.head?_eq_some_iff.mp hHead
    rw [hMore] at hFront
    cases (hDouble more).symm.trans hFront
    obtain ⟨cs, rfl⟩ := exists_of_head?_append hHead hLength
    exact hDouble cs
  · cases (readFront_bang now _ hOpen hHead).symm.trans hFront
    refine readFront_bang now cs (fun ⟨more, hMore⟩ => hOpen ⟨more ++ rest, ?_⟩)
      (head?_ne_of_append hHead)
    rw [hMore]
    rfl

/-- A stretch that ends in the front part is one of that part. -/
theorem takeWhile_of_append {p : Char → Bool} {rest : List Char}
    (hLength : ((cs ++ rest).takeWhile p).length ≤ cs.length) :
    (cs ++ rest).takeWhile p = cs.takeWhile p := by
  rw [List.takeWhile_append] at hLength ⊢
  split at hLength
  · next hWhole =>
      rw [List.length_append] at hLength
      have hNone := List.eq_nil_of_length_eq_zero (by omega : (rest.takeWhile p).length = 0)
      rw [if_pos hWhole, hNone, List.append_nil]
      exact ((List.takeWhile_prefix p).eq_of_length hWhole).symm
  · next hWhole => rw [if_neg hWhole]

theorem standsAlone_tag : StandsAlone now '#' := by
  have hRead (cs : List Char) : readFront now ('#' :: cs) = readTag cs := rfl
  intro cs rest t length hFront hLength
  rw [hRead, readTag] at hFront
  split at hFront
  · cases hFront
  · next hSome =>
      cases hFront
      rw [hRead, readTag, ← takeWhile_of_append (Nat.le_of_succ_le_succ hLength)]
      exact if_neg hSome

/-! Words. -/

theorem parenthesized?_append_of_some {body : List Char} (rest : List Char)
    (h : parenthesized? cs = some body) : parenthesized? (cs ++ rest) = some body := by
  obtain ⟨more, rfl, hBody⟩ := parenthesized?_eq_some_iff.mp h
  exact parenthesized?_eq_some_iff.mpr ⟨more ++ rest, by simp, hBody⟩

/-- A parenthesis that is closed in the front part is closed there. -/
theorem parenthesized?_of_append {body rest : List Char} (h : parenthesized? (cs ++ rest) = some body)
    (hLength : body.length + 2 ≤ cs.length) : parenthesized? cs = some body := by
  obtain ⟨more, hText, hBody⟩ := parenthesized?_eq_some_iff.mp h
  have hWhole : '(' :: (body ++ [')']) <+: cs ++ rest := ⟨more, by rw [hText]; simp⟩
  obtain ⟨inside, rfl⟩ := List.prefix_of_prefix_length_le hWhole (List.prefix_append ..)
    (by simpa using Nat.lt_of_succ_le hLength)
  exact parenthesized?_eq_some_iff.mpr ⟨inside, by simp, hBody⟩

theorem readTemporal?_congr {name : String} {ds : List Char} (h : parenthesized? cs = parenthesized? ds) :
    readTemporal? now name cs = readTemporal? now name ds := by
  rw [readTemporal?, readTemporal?, h]

/-- Where a text is cut off, a parenthesis that was closed before may be open, but no other one is closed. -/
theorem readTemporal?_of_append {name : String} (rest : List Char)
    (hLength : ∀ result, readTemporal? now name (cs ++ rest) = some result →
      result.2 ≤ name.length + cs.length) :
    readTemporal? now name cs = readTemporal? now name (cs ++ rest) := by
  cases hRead : readTemporal? now name (cs ++ rest) with
  | some result =>
      obtain ⟨t, length⟩ := result
      obtain ⟨body, hBody, hBodyLength, -⟩ := readTemporal?_eq_some hRead
      have hWithin : length ≤ name.length + cs.length := hLength _ hRead
      rw [← hRead, readTemporal?_congr (hBody.trans (parenthesized?_of_append hBody (by omega)).symm)]
  | none =>
      cases hCut : parenthesized? cs with
      | none =>
          rw [readTemporal?, hCut]
          rfl
      | some body =>
          rw [← hRead, readTemporal?_congr (hCut.trans (parenthesized?_append_of_some rest hCut).symm)]

/-- A word is read alone from its own characters. -/
theorem standsAlone_word (hStart : isNameStart c = true) : StandsAlone now c := by
  intro cs rest t length hFront hLength
  rw [readFront_of_isNameStart hStart, ← List.cons_append, readWord] at hFront
  rw [readFront_of_isNameStart hStart, readWord]
  have hName : ((c :: cs ++ rest).takeWhile isNamePart).length ≤ (c :: cs).length := by
    rw [List.length_cons]
    split at hFront
    · next result hTemporal =>
        cases hFront
        obtain ⟨body, -, rfl, -⟩ := readTemporal?_eq_some hTemporal
        rw [String.length_ofList] at hLength
        omega
    · cases hFront
      exact hLength
  have hBehind := List.length_drop (i := ((c :: cs).takeWhile isNamePart).length) (l := c :: cs)
  have hSame := takeWhile_of_append hName
  rw [hSame] at hName hFront
  rw [List.drop_append_of_le_length hName] at hFront
  rw [readTemporal?_of_append rest fun result hTemporal => ?_]
  · exact hFront
  · rw [hTemporal] at hFront
    cases hFront
    rw [String.length_ofList, hBehind, List.length_cons] at *
    omega

/-! Numbers. -/

/-- A fraction that ends in the front part is one of that part. -/
theorem fractionDigits_of_append (rest : List Char) (hLength : (if (fractionDigits (cs ++ rest)).isEmpty
    then 0 else (fractionDigits (cs ++ rest)).length + 1) ≤ cs.length) :
    fractionDigits (cs ++ rest) = fractionDigits cs := by
  cases cs with
  | nil =>
      split at hLength
      · next hEmpty => exact List.isEmpty_iff.mp hEmpty
      · exact absurd hLength (Nat.not_succ_le_zero _)
  | cons c cs =>
      by_cases hPoint : c = '.'
      · cases hPoint
        refine takeWhile_of_append (p := Char.isDigit) ?_
        split at hLength
        · next hEmpty =>
            have hNone : (cs ++ rest).takeWhile Char.isDigit = [] := List.isEmpty_iff.mp hEmpty
            rw [hNone]
            exact Nat.zero_le _
        · exact Nat.le_of_succ_le_succ hLength
      · simp [fractionDigits, hPoint]

/-- A number is read alone from its own characters. -/
theorem standsAlone_number (hDigit : c.isDigit = true) : StandsAlone now c := by
  intro cs rest t length hFront hLength
  rw [readFront_of_isDigit hDigit, ← List.cons_append, readNumber_eq] at hFront
  rw [readFront_of_isDigit hDigit, readNumber_eq]
  have hWhole : ((c :: cs ++ rest).takeWhile Char.isDigit).length ≤ (c :: cs).length := by
    cases hFront
    exact Nat.le_trans (Nat.le_add_right ..) hLength
  have hSame := takeWhile_of_append hWhole
  have hBehind : (c :: cs ++ rest).dropWhile Char.isDigit = (c :: cs).dropWhile Char.isDigit ++ rest := by
    rw [← drop_length_takeWhile, ← drop_length_takeWhile, hSame,
      List.drop_append_of_le_length (hSame ▸ hWhole)]
  have hSplit := congrArg List.length
    (List.takeWhile_append_dropWhile (p := Char.isDigit) (l := c :: cs))
  rw [List.length_append] at hSplit
  rw [hSame, hBehind] at hFront
  rw [← fractionDigits_of_append rest]
  · exact hFront
  · cases hFront
    rw [List.length_cons] at hSplit
    omega

/-! Any token. -/

/-- What holds of each way in which a character may begin a token holds of every character. -/
theorem front_cases {P : Char → Prop} (now : Date)
    (single : ∀ {c s}, (∀ cs, readFront now (c :: cs) = .ok (.symbol s, 1)) → P c)
    (double : ∀ {c s s'}, (∀ cs, readFront now (c :: '=' :: cs) = .ok (.symbol s', 2)) →
      (∀ cs, cs.head? ≠ some '=' → readFront now (c :: cs) = .ok (.symbol s, 1)) → P c)
    (string : ∀ {c}, (∀ cs, readFront now (c :: cs) = readString c cs) → P c)
    (tag : P '#') (bracket : P '[') (bang : P '!') (word : ∀ {c}, isNameStart c = true → P c)
    (number : ∀ {c : Char}, c.isDigit = true → P c)
    (none : ∀ {c}, (∀ cs, readFront now (c :: cs) = .error ⟨.unexpectedCharacter c, 0⟩) → P c) (c : Char) :
    P c := by
  by_cases hMark : c ∈ marks
  · have hEqual := readFront_comparison (by decide : ('=', Symbol.equal) ∈ _) now
    have hGreater := readFront_comparison (by decide : ('>', Symbol.greater) ∈ _) now
    have hLess := readFront_comparison (by decide : ('<', Symbol.less) ∈ _) now
    fin_cases hMark
    all_goals first
      | exact single fun _ => rfl
      | exact string fun _ => rfl
      | exact tag
      | exact bracket
      | exact bang
      | exact double (fun _ => rfl) hEqual
      | exact double (fun _ => rfl) hGreater
      | exact double (fun _ => rfl) hLess
  · by_cases hStart : isNameStart c = true
    · exact word hStart
    · by_cases hDigit : c.isDigit = true
      · exact number hDigit
      · exact none fun cs => by rw [readFront_of_not_mark hMark, if_neg hStart, if_neg hDigit]

/-- Every token is read alone from its own characters. The cases are those of the first character. -/
theorem standsAlone (now : Date) (c : Char) : StandsAlone now c := by
  refine front_cases now standsAlone_single standsAlone_double standsAlone_string standsAlone_tag
    standsAlone_bracket standsAlone_bang standsAlone_word standsAlone_number (fun hNone => ?_) c
  intro cs rest t length hFront
  cases (hNone _).symm.trans hFront

theorem readFront_of_append {rest : List Char} (hFront : readFront now (c :: (cs ++ rest)) = .ok (t, length))
    (hLength : length ≤ cs.length + 1) : readFront now (c :: cs) = .ok (t, length) :=
  standsAlone now c hFront hLength

/-! The present. -/

/-- Whether a text begins with a date that is named relative to the present. -/
def beginsWithRelativeDate (cs : List Char) : Bool :=
  cs.takeWhile isNamePart = ['d', 'a', 't', 'e'] &&
    (parenthesized? (cs.drop 4)).any fun body =>
      Date.relativeNames.contains (Text.trimmed (String.ofList body))

/-- A word that is no relative date is read alike at any time. -/
theorem readWord_present (hAbsolute : beginsWithRelativeDate cs = false) (now later : Date) :
    readWord later cs = readWord now cs := by
  have hSame : readTemporal? later (String.ofList (cs.takeWhile isNamePart))
      (cs.drop (cs.takeWhile isNamePart).length) =
      readTemporal? now (String.ofList (cs.takeWhile isNamePart))
        (cs.drop (cs.takeWhile isNamePart).length) := by
    rw [readTemporal?, readTemporal?]
    cases hBody : parenthesized? (cs.drop (cs.takeWhile isNamePart).length) with
    | none => rfl
    | some body =>
        by_cases hDate : String.ofList (cs.takeWhile isNamePart) = "date"
        · have hName : cs.takeWhile isNamePart = ['d', 'a', 't', 'e'] := by
            rw [← String.toList_ofList (l := cs.takeWhile isNamePart), hDate]
            rfl
          rw [hName] at hBody
          have hNot : Text.trimmed (String.ofList body) ∉ Date.relativeNames := fun hMem => by
            have hDrop : parenthesized? (cs.drop 4) = some body := hBody
            rw [beginsWithRelativeDate, hName, hDrop] at hAbsolute
            simp [hMem] at hAbsolute
          have hLiteral (now : Date) : Date.ofText? now (String.ofList body) =
              Date.ofLiteral? (String.ofList body) := by
            rw [Date.ofText?, Date.named?_eq_none hNot]
            rfl
          simp only [Option.bind_eq_bind, Option.bind_some, hLiteral]
        · simp only [if_neg hDate]
  rw [readWord, readWord, hSame]

/-- A token that begins with no relative date is read alike at any time. -/
theorem readFront_present (hAbsolute : beginsWithRelativeDate cs = false) (now later : Date) :
    readFront later cs = readFront now cs := by
  have hWord := readWord_present hAbsolute now later
  unfold readFront
  split <;> first
    | rw [hWord]
    | rfl

end Token
end DocQuery
