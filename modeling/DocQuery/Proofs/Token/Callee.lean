import DocQuery.Proofs.Token.Recased
import DocQuery.Proofs.Token.Tiling

/-!
The scan of a text in which the name of a call is written in another case. The parenthesis of the call ends
every search for the end of a date or a span that begins in front of it, so that all tokens of the text stay
what they are, unless the name itself becomes the beginning of a date or a span.
-/

namespace DocQuery

open Lexeme Text Token

/-! The name of a call. -/

section Name

variable {name other : String}

theorem IsNameShaped.toList_ne_nil (h : IsNameShaped name) : name.toList ≠ [] := by
  obtain ⟨c, cs, hWord, -⟩ := h.begins
  simp [hWord]

/-- A name in another case is still shaped like a name. -/
theorem IsNameShaped.recased (h : IsNameShaped name) (hCase : sameUpToAsciiCase name other = true) :
    IsNameShaped other := by
  have hLetters := sameUpToAsciiCase_iff.mp hCase
  obtain ⟨c, cs, hWord, hStart⟩ := h.begins
  refine ⟨?_, fun d hMem => ?_⟩
  · rw [hWord, List.map_cons] at hLetters
    obtain ⟨d, ds, hOther, hHead, -⟩ := List.map_eq_cons_iff.mp hLetters.symm
    refine ⟨d, ds, hOther, ?_⟩
    rw [← isNameStart_toLower, hHead, isNameStart_toLower, hStart]
  · have hSmall : d.toLower ∈ name.toList.map Char.toLower := hLetters ▸ List.mem_map_of_mem hMem
    obtain ⟨e, hIn, hSame⟩ := List.mem_map.mp hSmall
    rw [← isNamePart_toLower, ← hSame, isNamePart_toLower, h.goesOn e hIn]

/-- A word that is no constant is none in another case. -/
theorem ordinary_recased (h : Text.lower name ∉ constantWords) (hCase : sameUpToAsciiCase name other = true) :
    Text.lower other ∉ constantWords := by
  rwa [← lower_eq_of_sameUpToAsciiCase hCase]

end Name

namespace Token

variable {now : Date} {c : Char} {cs : List Char} {name other : String}

/-- No character of a name stops the search for a parenthesis. -/
theorem not_stopsParenthesis_of_isNamePart (h : isNamePart c = true) : (!stopsParenthesis c) = true := by
  by_contra hStop
  simp only [stopsParenthesis, Bool.not_eq_true', Bool.not_eq_false, Bool.or_eq_true, decide_eq_true_eq]
    at hStop
  rcases hStop with ((rfl | rfl) | rfl) | rfl <;> cases h

/-- No date or span goes on over the parenthesis of a call. -/
theorem parenthesized?_call {name : List Char} (hName : ∀ c ∈ name, isNamePart c = true) (hSome : name ≠ [])
    (front behind : List Char) :
    parenthesized? (front ++ (name ++ '(' :: behind)) = parenthesized? front := by
  cases front with
  | nil =>
      obtain ⟨d, name, rfl⟩ := List.exists_cons_of_ne_nil hSome
      refine parenthesized?_of_ne (fun hOpen => ?_) _
      cases (hName d List.mem_cons_self).symm.trans (congrArg isNamePart hOpen)
  | cons c front =>
      by_cases hOpen : c = '('
      · subst hOpen
        by_cases hGo : ∀ d ∈ front, (!stopsParenthesis d) = true
        · have hAll : ∀ d ∈ front ++ name, (!stopsParenthesis d) = true := fun d hMem =>
            (List.mem_append.mp hMem).elim (hGo d) fun hIn => not_stopsParenthesis_of_isNamePart (hName d hIn)
          rw [List.cons_append, ← List.append_assoc, parenthesized?_open, parenthesized?_open,
            List.dropWhile_append_of_pos hAll, List.dropWhile_eq_nil_iff.mpr hGo]
          rfl
        · exact parenthesized?_append_of_stop hGo _
      · rw [List.cons_append, parenthesized?_of_ne hOpen, parenthesized?_of_ne hOpen]

/-- Two spellings of a name in front of the parenthesis of a call. -/
theorem recased_call (hShape : IsNameShaped name) (hCase : sameUpToAsciiCase name other = true)
    (behind : List Char) : Recased (name.toList ++ '(' :: behind) (other.toList ++ '(' :: behind) := by
  have hOther := hShape.recased hCase
  refine ⟨?_, fun front => ?_⟩
  · rw [List.map_append, List.map_append, sameUpToAsciiCase_iff.mp hCase]
  · rw [parenthesized?_call hShape.goesOn hShape.toList_ne_nil,
      parenthesized?_call hOther.goesOn hOther.toList_ne_nil]

/-- Only two names begin a date or a span, and only in small letters. -/
theorem name_of_readTemporal? {result : Token × Nat}
    (h : readTemporal? now name cs = some result) : name = "date" ∨ name = "dur" := by
  obtain ⟨-, -, -, hLiteral⟩ := readTemporal?_eq_some h
  exact hLiteral.imp And.left And.left

/-- Nothing but a word is read as a name. -/
theorem isNameStart_of_identifier {length : Nat}
    (hFront : readFront now (c :: cs) = .ok (.identifier name, length)) : isNameStart c = true := by
  have hLink {embed : Bool} {lead : Nat} {cs : List Char} :
      readLink embed lead cs ≠ .ok (.identifier name, length) := by
    intro hRead
    obtain ⟨l, hToken⟩ := (readLink_append hRead).2.1
    cases hToken
  have hString {quote : Char} {cs : List Char} : readString quote cs ≠ .ok (.identifier name, length) := by
    rw [readString]
    split <;> simp
  have hTag {cs : List Char} : readTag cs ≠ .ok (.identifier name, length) := by
    rw [readTag]
    split <;> simp
  unfold readFront at hFront
  split at hFront <;> cases ‹c :: cs = _›
  case h_31 =>
    split at hFront
    · assumption
    · split at hFront <;> cases hFront
  all_goals first
    | cases hFront
    | exact absurd hFront hLink
    | exact absurd hFront hString
    | exact absurd hFront hTag

/-- What is read as a name is shaped like one, and is no constant. -/
theorem isNameShaped_of_identifier {length : Nat}
    (hFront : readFront now (c :: cs) = .ok (.identifier name, length)) :
    IsNameShaped name ∧ Text.lower name ∉ constantWords := by
  have hStart := isNameStart_of_identifier hFront
  rw [readFront_of_isNameStart hStart, readWord,
    List.takeWhile_cons_of_pos (isNamePart_of_isNameStart hStart)] at hFront
  split at hFront
  · next result hTemporal =>
      cases hFront
      obtain ⟨-, -, -, hLiteral⟩ := readTemporal?_eq_some hTemporal
      exact absurd rfl (hLiteral.notOther.2.2 name)
  · have hWord := congrArg Prod.fst (Except.ok.inj hFront)
    obtain ⟨rfl, hOrdinary⟩ := ofWord_eq_identifier_iff.mp hWord
    refine ⟨⟨⟨c, cs.takeWhile isNamePart, String.toList_ofList, hStart⟩, fun d hMem => ?_⟩, hOrdinary⟩
    rw [String.toList_ofList, List.mem_cons] at hMem
    rcases hMem with rfl | hMem
    · exact isNamePart_of_isNameStart hStart
    · exact List.mem_takeWhile_imp hMem

end Token

namespace Scan

variable {now : Date} {offset : Nat} {cs more more' : List Char} {us vs : List Lexeme} {u : Lexeme}
  {fault : Option FaultAt}

/-- The tokens in front of a change of letters stay what they are. -/
theorem Tiles.run_recased {front : List Char} (h : Tiles now offset cs (us ++ u :: vs) fault)
    (hText : cs = front ++ more) (hStart : u.start = offset + front.length) (hSame : Recased more more') :
    run now 0 offset (front ++ more') = (run now 0 u.start more').prepend us := by
  induction us generalizing offset cs front with
  | nil =>
      cases h with
      | @token _ gap c word tail t _ _ blanks begins token others =>
          have hGap := (List.append_inj hText (Nat.add_left_cancel hStart)).1
          rw [← hGap, run_blanks blanks]
          rfl
  | cons w us ih =>
      cases h with
      | @token _ gap c word tail t _ _ blanks begins token others =>
          obtain ⟨inside, rest, rfl, hInside, -⟩ := others.from_token
          have hSplit : (gap ++ c :: (word ++ inside)) ++ rest = front ++ more := by simpa using hText
          have hLength : (gap ++ c :: (word ++ inside)).length = front.length := by
            simp only [List.length_append, List.length_cons]
            omega
          obtain ⟨rfl, rfl⟩ := List.append_inj hSplit hLength
          have hToken := readFront_recased (hSame.append inside) token
          have hOthers := ih others rfl hInside
          have hRun := run_token begins hToken (offset + gap.length)
          rw [List.cons_append] at hRun
          rw [List.append_assoc, List.cons_append, List.append_assoc, run_blanks blanks, hRun, hOthers]
          rfl

/-- The scan goes on behind the token that is read. -/
theorem run_front {c : Char} {t : Token} {length : Nat} (hBlank : Text.isBlank c = false)
    (hFront : readFront now (c :: cs) = .ok (t, length)) (offset : Nat) :
    run now 0 offset (c :: cs) =
      (run now (length - 1) (offset + 1) cs).cons ⟨t, offset, offset + length⟩ := by
  rw [run, if_neg (by simp [hBlank]), hFront]

/-! The text of a call. -/

section Call

variable {name other before behind : String}

/-- Where no date or span begins with the name of a call, the name is a token of its own. -/
theorem run_call (hShape : IsNameShaped name) (hOrdinary : Text.lower name ∉ constantWords)
    (hNone : readTemporal? now name ('(' :: cs) = none) (offset : Nat) :
    run now 0 offset (name.toList ++ '(' :: cs) =
      (run now 0 (offset + name.length) ('(' :: cs)).cons
        ⟨.identifier name, offset, offset + name.length⟩ := by
  have hFront := readFront_call now hShape hOrdinary cs
  obtain ⟨c, word, hName, hStart⟩ := hShape.begins
  have hLength : name.length = word.length + 1 := by rw [← String.length_toList, hName, List.length_cons]
  rw [hNone, Option.getD_none, hName, hLength] at hFront
  rw [hName, hLength]
  exact run_token (isBlank_of_isNameStart hStart) hFront offset

theorem toList_call (before name behind : String) : (before ++ name ++ "(" ++ behind).toList =
    before.toList ++ (name.toList ++ '(' :: behind.toList) := by
  simp [String.toList_append]

/-- A name is a token in front of an opening parenthesis. -/
structure IsCallee (now : Date) (before name behind : String) : Prop where
  shape : IsNameShaped name
  ordinary : Text.lower name ∉ constantWords
  notTemporal : readTemporal? now name ('(' :: behind.toList) = none
  tiles : ∃ us vs fault, Tiles now 0 (before.toList ++ (name.toList ++ '(' :: behind.toList))
    (us ++ ⟨.identifier name, before.length, before.length + name.length⟩ :: vs) fault

/-- A name among the tokens in front of a parenthesis is a callee. -/
theorem isCallee_of_mem (hName : ⟨.identifier name, before.length, before.length + name.length⟩ ∈
    (ofText now (before ++ name ++ "(" ++ behind)).lexemes) : IsCallee now before name behind := by
  obtain ⟨ws, fault, hTiles⟩ := exists_tiles now 0 (before ++ name ++ "(" ++ behind).toList
  rw [ofText, hTiles.run_eq] at hName
  have hMem : ⟨.identifier name, before.length, before.length + name.length⟩ ∈ ws := by
    cases fault <;> simpa [ended] using hName
  obtain ⟨us, vs, rfl⟩ := List.append_of_mem hMem
  obtain ⟨front, rest, hText, hStart, hRest⟩ := hTiles.from_token
  rw [toList_call] at hText hTiles
  have hLength : before.toList.length = front.length := by
    rw [String.length_toList]
    exact hStart.trans (Nat.zero_add _)
  obtain ⟨-, hChars⟩ := List.append_inj hText hLength
  obtain ⟨c, chars, rfl, hFront⟩ := hRest.readFront_eq rfl
  obtain ⟨hShape, hOrdinary⟩ := isNameShaped_of_identifier hFront
  refine ⟨hShape, hOrdinary, ?_, us, vs, fault, hTiles⟩
  rw [← hChars, readFront_call now hShape hOrdinary] at hFront
  cases hNone : readTemporal? now name ('(' :: behind.toList) with
  | none => rfl
  | some result =>
      obtain ⟨t, length⟩ := result
      obtain ⟨-, -, -, hLiteral⟩ := readTemporal?_eq_some hNone
      rw [hNone] at hFront
      exact absurd (congrArg Prod.fst (Except.ok.inj hFront)) (hLiteral.notOther.2.2 name)

/-- Up to the name a text is scanned alike, whatever the case of the name. -/
theorem IsCallee.exists_front (h : IsCallee now before name behind) :
    ∃ us, ∀ other, sameUpToAsciiCase name other = true →
      ofText now (before ++ other ++ "(" ++ behind) =
        (run now 0 before.length (other.toList ++ '(' :: behind.toList)).prepend us := by
  obtain ⟨us, vs, fault, hTiles⟩ := h.tiles
  refine ⟨us, fun other hCase => ?_⟩
  have hSame := recased_call h.shape hCase behind.toList
  rw [ofText, toList_call]
  exact hTiles.run_recased rfl (by rw [String.length_toList, Nat.zero_add]) hSame

/-- In another case the name of a call is a token in its place again, with the other tokens around it as they
were, unless a date or a span begins with it. -/
theorem IsCallee.exists_scan (h : IsCallee now before name behind) :
    ∃ us, ∀ other, sameUpToAsciiCase name other = true →
      readTemporal? now other ('(' :: behind.toList) = none →
      ofText now (before ++ other ++ "(" ++ behind) =
        (run now 0 (before.length + name.length) ('(' :: behind.toList)).prepend
          (us ++ [⟨.identifier other, before.length, before.length + name.length⟩]) := by
  obtain ⟨us, hScan⟩ := h.exists_front
  refine ⟨us, fun other hCase hNone => ?_⟩
  have hOrdinary := ordinary_recased h.ordinary hCase
  rw [hScan other hCase, run_call (h.shape.recased hCase) hOrdinary hNone,
    ← length_eq_of_sameUpToAsciiCase hCase, prepend, prepend, cons, List.append_assoc]
  rfl

/-- A date or a span that begins with the name in another case is a token in its place. -/
theorem IsCallee.mem_scan (h : IsCallee now before name behind)
    (hCase : sameUpToAsciiCase name other = true) {t : Token} {length : Nat}
    (hTemporal : readTemporal? now other ('(' :: behind.toList) = some (t, length)) :
    ⟨t, before.length, before.length + length⟩ ∈ (ofText now (before ++ other ++ "(" ++ behind)).lexemes := by
  obtain ⟨us, hScan⟩ := h.exists_front
  have hShape := h.shape.recased hCase
  have hOrdinary := ordinary_recased h.ordinary hCase
  have hFront := readFront_call now hShape hOrdinary behind.toList
  obtain ⟨c, word, hOther, hStart⟩ := hShape.begins
  rw [hTemporal, hOther, List.cons_append] at hFront
  have hRun := run_front (isBlank_of_isNameStart hStart) hFront before.length
  rw [hScan other hCase, hOther, List.cons_append, hRun]
  exact List.mem_append_right us List.mem_cons_self

end Call

end Scan
end DocQuery
