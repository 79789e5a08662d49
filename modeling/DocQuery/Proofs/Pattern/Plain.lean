import DocQuery.Proofs.Pattern.Language
import DocQuery.Proofs.Pattern.Search

/-!
Plain patterns: letters and digits, the ends of texts, alternatives, and groups that capture nothing. They are
read from left to right with the levels of the open groups at hand, so that a pattern is read within a group as
it is read by itself.
-/

namespace DocQuery.Pattern.Plain

open PatternLanguage

/-- What was read of a group, or of the pattern outside all groups: the alternatives before the last bar, and what
is behind it. -/
structure Level where
  alternatives : Option Node := none
  present : Node := .empty

namespace Level

def node (l : Level) : Node := l.alternatives.elim l.present (Node.either · l.present)

def push (l : Level) (node : Node) : Level := { l with present := .seq l.present node }

def bar (l : Level) : Level := { alternatives := some l.node }

end Level

/-- A character that is a part by itself. -/
def atom? (c : Char) : Option Node :=
  if c = '^' then some (.look .textStart)
  else if c = '$' then some (.look .textEnd)
  else if c.isAlphanum then some (.ofChar c)
  else none

/-- The innermost level and the ones around it. -/
abbrev Levels := Level × List Level

/-- Reads on, and gives the levels at the end. -/
def advance (l : Level) (outer : List Level) : List Char → Option Levels
  | [] => some (l, outer)
  | '(' :: '?' :: ':' :: cs => advance {} (l :: outer) cs
  | ')' :: cs =>
    match outer with
    | [] => none
    | group :: outer => advance (group.push l.node) outer cs
  | '|' :: cs => advance l.bar outer cs
  | c :: cs => (atom? c).bind fun node => advance (l.push node) outer cs

/-- Reads a pattern, in which all groups must be closed. -/
def read? (text : String) : Option Node :=
  match advance {} [] text.toList with
  | some (l, []) => some l.node
  | _ => none

def engine : PatternEngine where
  compile text := ((read? text).map fun node => (ofNode node).compiled).elim (.error "unknown syntax") .ok
  escape := Pattern.escape

/-- The language of plain patterns, which knows no limits and no names. -/
def language : PatternLanguage where
  IsPattern text := (read? text).isSome
  IsTooLarge _ := False
  groupNames _ := []
  Matches pattern text i j := ∃ node ∈ read? pattern, node.Matches text.toList.toArray i j

/-- The engine of plain patterns takes the plain patterns, and finds what they match. -/
theorem implements : engine.Implements language where
  compile_iff pattern := by
    change (∃ p, Option.elim _ _ _ = Except.ok p) ↔ (read? pattern).isSome = true ∧ ¬False
    cases read? pattern with
    | none => simp
    | some node => simp
  occursIn_iff {pattern p} text hCompiled := by
    change Option.elim _ _ _ = Except.ok p at hCompiled
    change _ ↔ ∃ i, _ ∧ ∃ j, ∃ node ∈ read? pattern, _
    cases hRead : read? pattern with
    | none => simp [hRead] at hCompiled
    | some node =>
        rw [hRead] at hCompiled
        cases hCompiled
        have hSearch := occursIn_ofNode_iff node [] text
        rw [String.length_toList] at hSearch
        simpa only [Option.mem_some_iff, exists_eq_left', exists_and_left, compiled] using hSearch

/-! ### Reading on -/

variable {l l' : Level} {outer outer' : List Level} {c : Char} {cs : List Char} {node : Node}

/-- The parentheses and the bar are no parts by themselves. -/
theorem ne_of_atom (h : atom? c = some node) : c ≠ '(' ∧ c ≠ ')' ∧ c ≠ '|' := by
  refine ⟨?_, ?_, ?_⟩ <;> rintro rfl <;> cases h

theorem advance_other (hOpen : ∀ rest, c = '(' → cs ≠ '?' :: ':' :: rest) (hClose : c ≠ ')') (hBar : c ≠ '|')
    (l : Level) (outer : List Level) :
    advance l outer (c :: cs) = (atom? c).bind fun node => advance (l.push node) outer cs :=
  advance.eq_6 l outer c cs hOpen hClose hBar

/-- A part by itself is read behind what was read. -/
theorem advance_atom (h : atom? c = some node) (l : Level) (outer : List Level) (cs : List Char) :
    advance l outer (c :: cs) = advance (l.push node) outer cs := by
  obtain ⟨hOpen, hClose, hBar⟩ := ne_of_atom h
  rw [advance_other (fun _ hSame => absurd hSame hOpen) hClose hBar, h, Option.bind_some]

/-- What is read of a text is read of it too where more is behind it and other groups are around it. -/
theorem advance_append (h : advance l outer cs = some (l', outer')) (base : List Level) (rest : List Char) :
    advance l (outer ++ base) (cs ++ rest) = advance l' (outer' ++ base) rest := by
  fun_induction advance l outer cs with
  | case1 l outer =>
      cases h
      rfl
  | case2 l outer cs ih => exact ih h
  | case3 l cs => cases h
  | case4 l cs group outer ih => exact ih h
  | case5 l outer cs ih => exact ih h
  | case6 l outer c cs hOpen hClose hBar ih =>
      obtain ⟨node, hAtom, hRest⟩ := Option.bind_eq_some_iff.mp h
      rw [List.cons_append, advance_atom hAtom]
      exact ih node hRest

/-- Whether a text can be read does not depend on what was read before it, only on how many groups are open. -/
theorem exists_advance_of_depth {m : Level} {others : List Level} (hDepth : outer.length = others.length)
    (h : advance l outer cs = some (l', [])) : ∃ m', advance m others cs = some (m', []) := by
  fun_induction advance l outer cs generalizing m others with
  | case1 l outer =>
      cases h
      cases List.length_eq_zero_iff.mp hDepth.symm
      exact ⟨m, rfl⟩
  | case2 l outer cs ih => exact ih (congrArg (· + 1) hDepth) h
  | case3 l cs => cases h
  | case4 l cs group outer ih =>
      obtain ⟨other, others, rfl⟩ := List.exists_cons_of_length_eq_add_one hDepth.symm
      exact ih (Nat.succ.inj hDepth) h
  | case5 l outer cs ih => exact ih hDepth h
  | case6 l outer c cs hOpen hClose hBar ih =>
      obtain ⟨node, hAtom, hRest⟩ := Option.bind_eq_some_iff.mp h
      rw [advance_atom hAtom]
      exact ih node hDepth hRest

/-- A text that leaves a group around it was at some place about to close that group. -/
theorem exists_advance_close (outer base : List Level) {group : Level} (hDepth : outer'.length ≤ base.length)
    (h : advance l (outer ++ group :: base) cs = some (l', outer')) :
    ∃ inner rest m, cs = inner ++ ')' :: rest ∧ advance l outer inner = some (m, []) ∧
      advance (group.push m.node) base rest = some (l', outer') := by
  generalize hOuter : outer ++ group :: base = levels at h
  fun_induction advance l levels cs generalizing outer with
  | case1 l levels =>
      cases h
      rw [← hOuter] at hDepth
      simp at hDepth
      omega
  | case2 l levels cs ih =>
      obtain ⟨inner, rest, m, rfl, hInner, hRest⟩ := ih (l :: outer) (congrArg (l :: ·) hOuter) h
      exact ⟨'(' :: '?' :: ':' :: inner, rest, m, rfl, hInner, hRest⟩
  | case3 l cs => cases h
  | case4 l cs next levels ih =>
      cases outer with
      | nil =>
          cases hOuter
          exact ⟨[], cs, l, rfl, rfl, h⟩
      | cons first outer =>
          cases hOuter
          obtain ⟨inner, rest, m, rfl, hInner, hRest⟩ := ih _ rfl h
          exact ⟨')' :: inner, rest, m, rfl, hInner, hRest⟩
  | case5 l levels cs ih =>
      obtain ⟨inner, rest, m, rfl, hInner, hRest⟩ := ih _ hOuter h
      exact ⟨'|' :: inner, rest, m, rfl, hInner, hRest⟩
  | case6 l levels c cs hOpen hClose hBar ih =>
      obtain ⟨node, hAtom, hRest⟩ := Option.bind_eq_some_iff.mp h
      obtain ⟨inner, rest, m, rfl, hInner, hRest⟩ := ih node _ hOuter hRest
      refine ⟨c :: inner, rest, m, rfl, ?_, hRest⟩
      rwa [advance_atom hAtom]

/-- The end of texts can stand behind everything that was read. -/
theorem advance_textEnd (l : Level) (outer : List Level) (cs : List Char) :
    advance l outer (cs ++ ['$']) = (advance l outer cs).map fun s => (s.1.push (.look .textEnd), s.2) := by
  fun_induction advance l outer cs with
  | case1 l outer => rfl
  | case2 l outer cs ih => exact ih
  | case3 l cs => rfl
  | case4 l cs group outer ih => exact ih
  | case5 l outer cs ih => exact ih
  | case6 l outer c cs hOpen hClose hBar ih =>
      have hStill (rest : List Char) (hSame : c = '(') : cs ++ ['$'] ≠ '?' :: ':' :: rest := by
        intro hStart
        match cs with
        | [] => simp at hStart
        | [d] => simp at hStart
        | d :: e :: cs =>
            obtain ⟨rfl, rfl, -⟩ : d = '?' ∧ e = ':' ∧ _ := by simpa using hStart
            exact hOpen cs hSame rfl
      rw [List.cons_append, advance_other hStill hClose hBar]
      cases hAtom : atom? c with
      | none => rfl
      | some node => exact ih node

/-! ### Patterns -/

/-- A pattern is what can be read to its end with all groups closed. -/
theorem isPattern_iff {text : String} :
    language.IsPattern text ↔ ∃ l, advance {} [] text.toList = some (l, []) := by
  change (read? text).isSome = true ↔ _
  rw [read?]
  rcases advance {} [] text.toList with _ | ⟨l, _ | ⟨group, outer⟩⟩ <;> simp

/-- Behind a pattern a parenthesis closes nothing. -/
theorem unopened {pattern : String} (h : language.IsPattern pattern) (rest : String) :
    ¬language.IsPattern (pattern ++ ")" ++ rest) := by
  obtain ⟨l, hRead⟩ := isPattern_iff.mp h
  rintro hPattern
  obtain ⟨l', hRead'⟩ := isPattern_iff.mp hPattern
  have hOn := advance_append hRead [] (')' :: rest.toList)
  have hText : (pattern ++ ")" ++ rest).toList = pattern.toList ++ ')' :: rest.toList := by simp
  rw [hText] at hRead'
  cases hOn.symm.trans hRead'

/-- No plain pattern ends in a comment, so that all of them are closed. -/
theorem closed_iff {pattern : String} : language.Closed pattern ↔ language.IsPattern pattern :=
  ⟨Closed.isPattern, fun h => ⟨h, by simpa using unopened h ""⟩⟩

/-! ### Pieces -/

variable {text : String} {i j : Nat}

theorem matches_textStart_iff (hPlace : i ≤ text.length) :
    (Node.look .textStart).Matches text.toList.toArray i j ↔ i = 0 ∧ i = j := by
  refine and_congr_left fun _ => ?_
  change (charBefore text.toList.toArray i).isNone = true ↔ i = 0
  rw [charBefore]
  split
  · next hZero => exact iff_of_true rfl hZero
  · next hNonzero =>
      have hLess : i - 1 < text.toList.length := by rw [String.length_toList]; omega
      rw [List.getElem?_toArray, List.getElem?_eq_getElem hLess]
      exact iff_of_false Bool.false_ne_true hNonzero

theorem matches_textEnd_iff (hPlace : i ≤ text.length) :
    (Node.look .textEnd).Matches text.toList.toArray i j ↔ i = text.length ∧ i = j := by
  refine and_congr_left fun _ => ?_
  change text.toList.toArray[i]?.isNone = true ↔ i = text.length
  rw [Option.isNone_iff_eq_none, List.getElem?_toArray, List.getElem?_eq_none_iff, String.length_toList]
  exact ⟨hPlace.antisymm, Eq.ge⟩

/-- A piece is read as one part, which matches what the piece stands for. -/
theorem exists_advance_piece (piece : Piece)
    (hInner : ∀ inner, piece = .group inner → language.IsPattern inner) :
    ∃ node : Node,
      (∀ l outer rest, advance l outer (piece.written.toList ++ rest) = advance (l.push node) outer rest) ∧
      ∀ text i j, i ≤ text.length →
        (node.Matches text.toList.toArray i j ↔ piece.Matches language text i j) := by
  cases piece with
  | textStart => exact ⟨_, fun _ _ _ => advance_atom rfl _ _ _, fun _ _ _ => matches_textStart_iff⟩
  | textEnd => exact ⟨_, fun _ _ _ => advance_atom rfl _ _ _, fun _ _ _ => matches_textEnd_iff⟩
  | group inner =>
      obtain ⟨m, hRead⟩ := isPattern_iff.mp (hInner inner rfl)
      have hTree : read? inner = some m.node := by rw [read?, hRead]
      refine ⟨m.node, fun l outer rest => ?_, fun text i j _ => ?_⟩
      · have hOn := advance_append hRead (l :: outer) (')' :: rest)
        have hText : (Piece.group inner).written.toList ++ rest =
            '(' :: '?' :: ':' :: (inner.toList ++ ')' :: rest) := by
          simp [Piece.written]
        rw [hText]
        exact hOn
      · change _ ↔ ∃ node ∈ read? inner, _
        simp only [hTree, Option.mem_some_iff, exists_eq_left']

/-- Pieces are read one after the other, and match in turn. -/
theorem exists_advance_pieces (pieces : List Piece)
    (hInner : ∀ inner, .group inner ∈ pieces → language.IsPattern inner) (l : Level) :
    ∃ l' : Level, l'.alternatives = l.alternatives ∧
      advance l [] (Piece.writtenAll pieces).toList = some (l', []) ∧
      ∀ text i k, i ≤ text.length → (l'.present.Matches text.toList.toArray i k ↔
        ∃ j, l.present.Matches text.toList.toArray i j ∧ Piece.MatchesInTurn language text pieces j k) := by
  induction pieces generalizing l with
  | nil => exact ⟨l, rfl, rfl, fun text i k _ => by simp [Piece.MatchesInTurn]⟩
  | cons piece rest ih =>
      obtain ⟨node, hRead, hMeans⟩ := exists_advance_piece piece fun inner hSame =>
        hInner inner (hSame ▸ List.mem_cons_self)
      obtain ⟨l', hSame, hRest, hTurn⟩ :=
        ih (fun inner hMem => hInner inner (List.mem_cons_of_mem _ hMem)) (l.push node)
      refine ⟨l', hSame, ?_, fun text i k hPlace => ?_⟩
      · rw [Piece.writtenAll, String.toList_append, hRead, hRest]
      · have hSize : text.toList.toArray.size = text.length := by rw [List.size_toArray, String.length_toList]
        rw [hTurn text i k hPlace]
        constructor
        · rintro ⟨j, ⟨m, hBefore, hNode⟩, hBehind⟩
          have hWithin := hSize ▸ hBefore.le_size (hSize.symm ▸ hPlace)
          exact ⟨m, hBefore, j, (hMeans text m j hWithin).mp hNode, hBehind⟩
        · rintro ⟨m, hBefore, j, hPiece, hBehind⟩
          have hWithin := hSize ▸ hBefore.le_size (hSize.symm ▸ hPlace)
          exact ⟨j, ⟨m, hBefore, (hMeans text m j hWithin).mpr hPiece⟩, hBehind⟩

/-- A group ends at the parenthesis behind a pattern, and an empty group serves in its place for what is
behind. -/
theorem isPattern_group_iff {text : String} : language.IsPattern ("(?:" ++ text) ↔
    ∃ inner rest, text = inner ++ ")" ++ rest ∧ language.IsPattern inner ∧
      language.IsPattern ("(?:)" ++ rest) := by
  have hStart (rest : String) : ("(?:" ++ rest).toList = '(' :: '?' :: ':' :: rest.toList := by simp
  have hEmpty (rest : String) : ("(?:)" ++ rest).toList = '(' :: '?' :: ':' :: ')' :: rest.toList := by simp
  simp only [isPattern_iff, hStart, hEmpty]
  constructor
  · rintro ⟨l, hRead⟩
    obtain ⟨inner, rest, m, hText, hInner, hRest⟩ := exists_advance_close [] [] (Nat.le_refl _) hRead
    obtain ⟨l', hRest⟩ : ∃ l', advance (Level.push {} (Level.node {})) [] rest = some (l', []) :=
      exists_advance_of_depth rfl hRest
    refine ⟨String.ofList inner, String.ofList rest, String.toList_inj.mp ?_, ⟨m, ?_⟩, ⟨l', ?_⟩⟩
    · simp [hText]
    · rwa [String.toList_ofList]
    · rw [String.toList_ofList]
      exact hRest
  · rintro ⟨inner, rest, rfl, ⟨m, hInner⟩, ⟨l', hRest⟩⟩
    change advance (Level.push {} (Level.node {})) [] rest.toList = _ at hRest
    have hText : (inner ++ ")" ++ rest).toList = inner.toList ++ ')' :: rest.toList := by simp
    have hOn := advance_append hInner [{}] (')' :: rest.toList)
    rw [hText]
    obtain ⟨l, hRest⟩ : ∃ l, advance (Level.push {} m.node) [] rest.toList = some (l, []) :=
      exists_advance_of_depth rfl hRest
    exact ⟨l, hOn.trans hRest⟩

/-- What is documented of groups and ends of texts holds of plain patterns. -/
theorem documented : language.Documented where
  group text := by
    simp only [closed_iff]
    refine isPattern_group_iff.trans (exists_congr fun inner => exists_congr fun rest => ?_)
    exact and_congr_right fun _ => and_congr_right fun _ => (and_iff_left (List.disjoint_nil_left _)).symm
  unopened pattern rest hClosed := unopened hClosed.isPattern rest
  parenthesis := by
    have hEmpty : language.IsPattern "" := rfl
    simpa using unopened hEmpty ""
  textStart text := by
    have hStart : ("^(?:" ++ text).toList = '^' :: ("(?:" ++ text).toList := by simp
    rw [isPattern_iff, isPattern_iff, hStart, advance_atom rfl]
    exact ⟨fun ⟨_, h⟩ => exists_advance_of_depth rfl h, fun ⟨_, h⟩ => exists_advance_of_depth rfl h⟩
  textEnd text := by
    have hEnd : (text ++ ")$").toList = (text ++ ")").toList ++ ['$'] := by simp
    rw [isPattern_iff, isPattern_iff, hEnd, advance_textEnd]
    rcases advance {} [] (text ++ ")").toList with _ | ⟨l, outer⟩ <;> simp
  isPattern_pieces pieces hFit := by
    obtain ⟨l, -, hRead, -⟩ :=
      exists_advance_pieces pieces (fun inner hMem => (hFit.closed inner hMem).isPattern) {}
    exact isPattern_iff.mpr ⟨l, hRead⟩
  groupNames_pieces pieces hFit := by
    refine (List.flatMap_eq_nil_iff.mpr fun piece _ => ?_).symm
    cases piece <;> rfl
  matches_pieces pieces text i j hFit hPlace := by
    obtain ⟨l, hSame, hRead, hTurn⟩ :=
      exists_advance_pieces pieces (fun inner hMem => (hFit.closed inner hMem).isPattern) {}
    have hNode : l.node = l.present := by
      rw [Level.node, hSame]
      rfl
    have hTree : read? (Piece.writtenAll pieces) = some l.present := by
      rw [read?, hRead]
      exact congrArg some hNode
    change (∃ node ∈ read? (Piece.writtenAll pieces), _) ↔ _
    simp only [hTree, Option.mem_some_iff, exists_eq_left', hTurn text i j hPlace]
    exact ⟨fun ⟨_, hStart, hRest⟩ => hStart ▸ hRest, fun hRest => ⟨i, rfl, hRest⟩⟩

end DocQuery.Pattern.Plain
