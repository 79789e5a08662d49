import DocQuery.Query.Read
import DocQuery.Proofs.Expr.Progress
import DocQuery.Proofs.Outcome
import DocQuery.Proofs.Token.Tiling

/-!
Reading a text comes to its end. The readers of sources, fields, headers and clauses go forward as those of
expressions do, so that a text that can be read is read up to its end, and a fault lies at one of its
tokens.
-/

namespace DocQuery

open Lexeme

namespace Source

theorem takeLink_advances (what : String) (ts : List Lexeme) : Advances 1 ts (takeLink what ts) := by
  cases ts with
  | nil => exact .fault [] _
  | cons t rest =>
      rw [takeLink]
      split
      · next hToken => exact .cons (by simp [hToken]) (.refl rest)
      · exact .fault (t :: rest) _

theorem readTarget_advances (ts : List Lexeme) : Advances 1 ts (readTarget ts) := by
  refine (takeSymbol_advances .openParen ts).bind fun opening => ?_
  refine (takeLink_advances _ opening.rest).weaken.bind fun link => ?_
  exact (takeSymbol_advances .closeParen link.rest).weaken.bind fun close => .refl close.rest

mutual

theorem read_advances (ts : List Lexeme) : Advances 1 ts (read ts) := by
  rw [read]
  refine (readAtom_advances ts).bind fun left => ?_
  have := left.within
  exact (readChain_advances left.value left.rest).bind fun chain => .refl chain.rest
termination_by (ts.length, 1)

/-- The rest of a chain of sources may take no token. -/
theorem readChain_advances (left : Source) (ts : List Lexeme) : Advances 0 ts (readChain left ts) := by
  match ts with
  | [] =>
      rw [readChain]
      exact .refl []
  | t :: rest =>
      rw [readChain]
      split
      · exact .refl (t :: rest)
      · next join hJoin =>
          refine Advances.weaken (.token (fun hFinish => ?_) ((readAtom_advances rest).weaken.bind
            fun right => ?_))
          · rw [hFinish] at hJoin
            cases hJoin
          · have := right.within
            exact (readChain_advances (join left right.value) right.rest).bind
              fun chain => .refl chain.rest
termination_by (ts.length, 0)

theorem readAtom_advances (ts : List Lexeme) : Advances 1 ts (readAtom ts) := by
  match ts with
  | [] =>
      rw [readAtom]
      exact .fault [] _
  | t :: rest =>
      rw [readAtom]
      split
      · next hToken => exact .cons (by simp [hToken]) (.refl rest)
      · next hToken => exact .cons (by simp [hToken]) (.refl rest)
      · next hToken => exact .cons (by simp [hToken]) (.refl rest)
      · next hToken =>
          split
          · exact .token (by simp [hToken]) ((readTarget_advances rest).weaken.map_widen _ _)
          · exact .fault (t :: rest) _
      · next hToken =>
          exact .token (by simp [hToken]) ((readAtom_advances rest).weaken.map_widen not _)
      · next hToken =>
          exact .token (by simp [hToken]) ((readAtom_advances rest).weaken.map_widen not _)
      · next hToken =>
          refine .token (by simp [hToken]) ((read_advances rest).weaken.bind fun source => ?_)
          exact (takeSymbol_advances .closeParen source.rest).weaken.bind fun close => .refl close.rest
      · exact .fault (t :: rest) _
termination_by (ts.length, 0)

end

end Source

namespace NamedExpr

variable (text : List Char)

theorem read_advances (ts : List Lexeme) : Advances 1 ts (read text ts) := by
  refine (Expr.read_advances ts).bind fun e => ?_
  dsimp only
  split
  · next hAs =>
      refine Takes.advances ((Takes.word hAs).weaken (Nat.zero_le _)) ?_
      exact (takeLabel_advances "a name after AS" (e.rest.drop 1)).weaken.bind
        fun name => .refl name.rest
  · exact .refl e.rest

theorem readMore_advances (ts : List Lexeme) : Advances 0 ts (readMore text ts) := by
  match ts with
  | [] =>
      rw [readMore]
      exact .refl []
  | t :: rest =>
      rw [readMore]
      split
      · next hComma =>
          refine Advances.weaken (.token (by simp [hComma]) ((read_advances text rest).weaken.bind
            fun named => ?_))
          have := named.within
          exact (readMore_advances named.rest).bind fun others => .refl others.rest
      · exact .refl (t :: rest)
termination_by ts.length

end NamedExpr

namespace SortField

/-- A direction may be written in two ways. -/
theorem takes_either {short long : String} {ts : List Lexeme}
    (hWord : (isWord short ts || isWord long ts) = true) : Takes 1 ts (ts.drop 1) :=
  (Bool.or_eq_true_iff.mp hWord).elim Takes.word Takes.word

theorem readDirection_takes (ts : List Lexeme) : Takes 0 ts (readDirection ts).rest := by
  rw [readDirection]
  split
  · next hWord => exact (takes_either hWord).weaken (Nat.zero_le _)
  split
  · next hWord => exact (takes_either hWord).weaken (Nat.zero_le _)
  · exact .refl ts

theorem readOne_advances (ts : List Lexeme) : Advances 1 ts (readOne ts) :=
  (Expr.read_advances ts).bind fun e => readDirection_takes e.rest

theorem readMore_advances (ts : List Lexeme) : Advances 0 ts (readMore ts) := by
  match ts with
  | [] =>
      rw [readMore]
      exact .refl []
  | t :: rest =>
      rw [readMore]
      split
      · next hComma =>
          refine Advances.weaken (.token (by simp [hComma]) ((readOne_advances rest).weaken.bind
            fun field => ?_))
          have := field.within
          exact (readMore_advances field.rest).bind fun others => .refl others.rest
      · exact .refl (t :: rest)
termination_by ts.length

theorem read_advances (ts : List Lexeme) : Advances 1 ts (read ts) := by
  refine (readOne_advances ts).bind fun field => ?_
  exact (readMore_advances field.rest).bind fun others => .refl others.rest

end SortField

namespace Header

variable (text : List Char)

theorem takeWithoutId_takes (ts : List Lexeme) : Takes 0 ts (takeWithoutId ts).rest := by
  rw [takeWithoutId]
  split
  · next hWords =>
      obtain ⟨hWithout, hId⟩ := Bool.and_eq_true_iff.mp hWords
      have hBoth := (Takes.word hWithout).trans (Takes.word hId)
      rw [List.drop_drop] at hBoth
      exact hBoth.weaken (Nat.zero_le _)
  · exact .refl ts

theorem readColumns_advances (ts : List Lexeme) : Advances 0 ts (readColumns text ts) := by
  rw [readColumns]
  split
  · exact .refl ts
  · refine (NamedExpr.read_advances text ts).weaken.bind fun named => ?_
    exact (NamedExpr.readMore_advances text named.rest).bind fun others => .refl others.rest

theorem readFormat_advances (ts : List Lexeme) : Advances 0 ts (readFormat ts) := by
  rw [readFormat]
  split
  · exact .refl ts
  · exact (Expr.read_advances ts).weaken.map_widen some _

theorem read_advances (ts : List Lexeme) : Advances 1 ts (read text ts) := by
  cases ts with
  | nil => exact .fault [] _
  | cons t rest =>
      rw [read]
      split
      · next hToken =>
          have hNotFinish : t.token ≠ .finish := by simp [hToken]
          split
          · refine .token hNotFinish ((takeWithoutId_takes rest).advances ?_)
            exact (readColumns_advances text (takeWithoutId rest).rest).map_widen _ _
          · refine .token hNotFinish ((takeWithoutId_takes rest).advances ?_)
            exact (readFormat_advances (takeWithoutId rest).rest).map_widen _ _
          · exact .cons hNotFinish (.refl rest)
          · exact .token hNotFinish ((NamedExpr.read_advances text rest).weaken.map_widen calendar _)
          · exact .fault (t :: rest) _
      · exact .fault (t :: rest) _

end Header

namespace Clause

variable (text : List Char)

theorem takeBy_advances (ts : List Lexeme) : Advances 1 ts (takeBy ts) := by
  cases ts with
  | nil => exact .fault [] _
  | cons t rest =>
      rw [takeBy]
      split
      · next hWord => exact Takes.word hWord
      · exact .fault (t :: rest) _

/-- Behind a word that begins a clause a reader goes on, so that it never fails at the word itself. -/
theorem read_word_advances {word : String} (hWord : Text.upper word ∈ reservedWords) (start stop : Nat)
    (rest : List Lexeme) : Advances 0 rest (read text (⟨.identifier word, start, stop⟩ :: rest)) := by
  rw [read]
  dsimp only
  split
  · exact (Source.read_advances rest).weaken.map_widen source _
  · exact (Expr.read_advances rest).weaken.map_widen _ _
  · exact (Expr.read_advances rest).weaken.map_widen _ _
  · exact (SortField.read_advances rest).weaken.map_widen _ _
  · exact (Expr.read_advances rest).weaken.map_widen _ _
  · exact (NamedExpr.read_advances text rest).weaken.map_widen _ _
  · refine (takeBy_advances rest).weaken.bind fun opening => ?_
    exact (NamedExpr.read_advances text opening.rest).weaken.map_widen _ _
  · simp_all [reservedWords]

/-- A word that is not reserved begins no clause, whatever its letter case. -/
theorem read_word_unknown {word : String} (hWord : Text.upper word ∉ reservedWords) (start stop : Nat)
    (rest : List Lexeme) : read text (⟨.identifier word, start, stop⟩ :: rest) =
      .error (faultHere (⟨.identifier word, start, stop⟩ :: rest) (.unknownClause (Text.upper word))) := by
  rw [read]
  dsimp only
  split <;> first | rfl | simp_all [reservedWords]

theorem read_advances (ts : List Lexeme) : Advances 1 ts (read text ts) := by
  cases ts with
  | nil => exact .fault [] _
  | cons t rest =>
      obtain ⟨token, start, stop⟩ := t
      cases token with
      | identifier word =>
          by_cases hWord : Text.upper word ∈ reservedWords
          · exact .token Token.noConfusion (read_word_advances text hWord start stop rest)
          · rw [read_word_unknown text hWord]
            exact .fault (_ :: rest) _
      | _ => exact .fault (_ :: rest) _

/-- Clauses one behind the other, from some tokens on up to the end. -/
inductive Run (text : List Char) : List Lexeme → List Clause → List Lexeme → Prop where
  | finish {ts} (ends : current ts = .finish) : Run text ts [] ts
  | clause {ts p cs rest} (goes : current ts ≠ .finish) (first : read text ts = .ok p)
      (others : Run text p.rest cs rest) : Run text ts (p.value :: cs) rest

variable {text}

theorem Run.takes {ts rest : List Lexeme} {cs : List Clause} (h : Run text ts cs rest) :
    Takes 0 ts rest ∧ current rest = .finish := by
  induction h with
  | finish ends => exact ⟨.refl _, ends⟩
  | @clause ts p cs rest goes first others ih =>
      have hFirst := (read_advances text ts).takes first
      exact ⟨(hFirst.trans ih.1).weaken (Nat.zero_le _), ih.2⟩

/-- Clauses that were read follow one another up to the end. -/
theorem run_of_readAll {ts : List Lexeme} {cs : List Clause} (h : readAll text ts = .ok cs) :
    ∃ rest, Run text ts cs rest := by
  fun_induction readAll text ts generalizing cs
  case case1 ts hFinish =>
      cases h
      exact ⟨ts, .finish hFinish⟩
  case case2 ts hGoes ih =>
      obtain ⟨p, hFirst, h⟩ := bind_eq_ok_iff.mp h
      obtain ⟨others, hOthers, h⟩ := bind_eq_ok_iff.mp h
      cases h
      obtain ⟨rest, hRun⟩ := ih p hOthers
      exact ⟨rest, .clause hGoes hFirst hRun⟩

/-- Where clauses cannot be read, a token has the fault. -/
theorem readAll_fault {ts : List Lexeme} {f : FaultAt} (h : readAll text ts = .error f) :
    ∃ rest, Takes 0 ts rest ∧ f.offset = currentStart rest := by
  fun_induction readAll text ts
  case case1 => cases h
  case case2 ts hGoes ih =>
      have hRead := read_advances text ts
      rcases bind_eq_error_iff.mp h with hFirst | ⟨p, hFirst, h⟩
      · exact hRead.offset hFirst
      rcases bind_eq_error_iff.mp h with hOthers | ⟨others, -, h⟩
      · obtain ⟨rest, hRest, hOffset⟩ := ih p hOthers
        exact ⟨rest, ((hRead.takes hFirst).trans hRest).weaken (Nat.zero_le _), hOffset⟩
      · cases h

end Clause

/-! Whole texts. -/

/-- The line and the column of a place are those counted from the characters in front of it. -/
theorem Position.foldl_next (cs : List Char) : cs.foldl next ⟨1, 1, 0⟩ =
    ⟨cs.count '\n' + 1, (cs.reverse.takeWhile (· ≠ '\n')).length + 1, cs.length⟩ := by
  induction cs using List.reverseRecOn with
  | nil => rfl
  | append_singleton cs c ih =>
      rw [List.foldl_append, ih, List.foldl_cons, List.foldl_nil, next, List.reverse_append,
        List.reverse_singleton, List.singleton_append, List.count_append, List.length_append]
      by_cases hLine : c = '\n'
      · simp [hLine]
      · simp [hLine]

namespace Scan

/-- The token that stands for the end of a text. -/
def endOf (text : String) : Lexeme := ⟨.finish, text.toList.length, text.toList.length⟩

/-- A text is cut into some tokens and its end, without a fault. -/
def Cut (now : Date) (text : String) (us : List Lexeme) : Prop :=
  ofText now text = ⟨us ++ [endOf text], none⟩ ∧ ∀ u ∈ us, u.token ≠ .finish

/-- Without a fault, the tokens that tile a text cut it. -/
theorem Tiles.cut {now : Date} {text : String} {us : List Lexeme} (h : Tiles now 0 text.toList us none) :
    Cut now text us := by
  refine ⟨?_, h.notFinish⟩
  rw [ofText, h.run_eq, Nat.zero_add]
  rfl

end Scan

/-- An error in a text is found at a token, or where no token can be read. Its place is counted from the
characters in front of it. -/
structure ReadError.Located (now : Date) (text : String) (e : ReadError) : Prop where
  place : ((Scan.ofText now text).fault = none ∧
      ∃ t ∈ (Scan.ofText now text).lexemes, e.position.offset = t.start) ∨
    ∃ f, (Scan.ofText now text).fault = some f ∧ e.position.offset = f.offset
  within : e.position.offset ≤ text.toList.length
  line : e.position.line = (text.toList.take e.position.offset).count '\n' + 1
  column : e.position.column =
    ((text.toList.take e.position.offset).reverse.takeWhile (· ≠ '\n')).length + 1

section Texts

variable {now : Date} {text : String}

/-- The place of a fault that lies at a token or at the fault of the scan is found in the text. -/
theorem ReadError.located_locate {f : FaultAt} (hPlace : ((Scan.ofText now text).fault = none ∧
      ∃ t ∈ (Scan.ofText now text).lexemes, f.offset = t.start) ∨
    ∃ g, (Scan.ofText now text).fault = some g ∧ f.offset = g.offset)
    (hWithin : f.offset ≤ text.toList.length) : Located now text (locate text f) :=
  ⟨hPlace, hWithin, congrArg Position.line (Position.foldl_next _),
    congrArg Position.column (Position.foldl_next _)⟩

/-- What is done with the tokens of a text is done with all of them, or ends in an error of the text. -/
theorem read_or_located {α : Type} (now : Date) (text : String) (run : List Lexeme → Except FaultAt α)
    (hRun : ∀ ts f, run ts = .error f → ∃ rest, Takes 0 ts rest ∧ f.offset = currentStart rest) :
    (∃ us v, ((Scan.ofText now text).lexemes?.bind run).mapError (ReadError.locate text) = .ok v ∧
        Scan.Tiles now 0 text.toList us none ∧ run (us ++ [Scan.endOf text]) = .ok v) ∨
      ∃ e, ((Scan.ofText now text).lexemes?.bind run).mapError (ReadError.locate text) = .error e ∧
        ReadError.Located now text e := by
  obtain ⟨us, fault, hTiles⟩ := Scan.exists_tiles now 0 text.toList
  have hScan : Scan.ofText now text = Scan.ended us fault text.toList.length := by
    rw [Scan.ofText, hTiles.run_eq, Nat.zero_add]
  cases fault with
  | some f =>
      obtain ⟨-, -, hWithin⟩ := hTiles.fault_offset rfl
      rw [Nat.zero_add] at hWithin
      refine .inr ⟨ReadError.locate text f, by rw [hScan]; rfl, ReadError.located_locate ?_ ?_⟩
      · exact .inr ⟨f, by rw [hScan]; rfl, rfl⟩
      · exact Nat.le_of_lt hWithin
  | none =>
      have hWhole : (Scan.ofText now text).lexemes? = .ok (us ++ [Scan.endOf text]) := by
        rw [hScan]
        rfl
      rw [hWhole]
      cases hOutcome : run (us ++ [Scan.endOf text]) with
      | ok v =>
          exact .inl ⟨us, v, congrArg (Except.mapError _) hOutcome, hTiles, hOutcome⟩
      | error f =>
          obtain ⟨rest, hRest, hOffset⟩ := hRun _ f hOutcome
          obtain ⟨left, rfl, hLeft⟩ := hRest.exists_of_finish rfl
          obtain ⟨t, hMem, hStart⟩ : ∃ t ∈ us ++ [Scan.endOf text], f.offset = t.start := by
            cases left with
            | nil => exact ⟨Scan.endOf text, by simp, hOffset⟩
            | cons u left =>
                exact ⟨u, List.mem_append_left _ (hLeft.subset (List.mem_cons_self ..)), hOffset⟩
          refine .inr ⟨ReadError.locate text f, congrArg (Except.mapError _) hOutcome,
            ReadError.located_locate (.inl ⟨by rw [hScan]; rfl, t, by rw [hScan]; exact hMem, hStart⟩) ?_⟩
          rw [hStart]
          rcases List.mem_append.mp hMem with hToken | hEnd
          · obtain ⟨-, hSpan, hStop⟩ := hTiles.spans t hToken
            omega
          · rw [List.mem_singleton.mp hEnd]
            exact Nat.le_refl _

/-- Where an expression cannot be read, a token has the fault. -/
theorem Expr.readAll_fault {ts : List Lexeme} {f : FaultAt} (h : Expr.readAll ts = .error f) :
    ∃ rest, Takes 0 ts rest ∧ f.offset = currentStart rest := by
  have hAdvances := Expr.read_advances ts
  rcases bind_eq_error_iff.mp h with hRead | ⟨e, hRead, h⟩
  · exact hAdvances.offset hRead
  · split at h
    · cases h
    · cases h
      exact ⟨e.rest, (hAdvances.takes hRead).weaken (Nat.zero_le _), rfl⟩

/-- Where a query cannot be read, a token has the fault. -/
theorem Query.readAll_fault {cs : List Char} {ts : List Lexeme} {f : FaultAt}
    (h : Query.readAll cs ts = .error f) : ∃ rest, Takes 0 ts rest ∧ f.offset = currentStart rest := by
  have hHeader := Header.read_advances cs ts
  rcases bind_eq_error_iff.mp h with hRead | ⟨header, hRead, h⟩
  · exact hHeader.offset hRead
  rcases bind_eq_error_iff.mp h with hClauses | ⟨clauses, -, h⟩
  · obtain ⟨rest, hRest, hOffset⟩ := Clause.readAll_fault hClauses
    exact ⟨rest, ((hHeader.takes hRead).trans hRest).weaken (Nat.zero_le _), hOffset⟩
  · cases h

/-- An expression that takes a whole list of tokens leaves what it ends with. -/
theorem Expr.read_of_readAll {us tail : List Lexeme} {e : Expr} (h : Expr.readAll (us ++ tail) = .ok e)
    (hUs : ∀ u ∈ us, u.token ≠ .finish) (hFinish : current tail = .finish) :
    ∃ within, Expr.read (us ++ tail) = .ok ⟨e, tail, within⟩ := by
  obtain ⟨⟨value, rest, within⟩, hRead, hEnd⟩ := bind_eq_ok_iff.mp h
  split at hEnd
  · next hRest =>
      cases hEnd
      obtain rfl : rest = tail := ((Expr.read_advances _).takes hRead).eq_tail hFinish hUs hRest
      exact ⟨within, hRead⟩
  · cases hEnd

/-- A query that takes a whole list of tokens is its header, and its clauses up to the end. -/
theorem Query.run_of_readAll {cs : List Char} {us tail : List Lexeme} {q : Query}
    (h : Query.readAll cs (us ++ tail) = .ok q) (hUs : ∀ u ∈ us, u.token ≠ .finish)
    (hFinish : current tail = .finish) :
    ∃ header clauses, Header.read cs (us ++ tail) = .ok header ∧ Clause.Run cs header.rest clauses tail ∧
      clauses.foldl Query.add ⟨header.value, .everything, []⟩ = q := by
  obtain ⟨header, hHeader, h⟩ := bind_eq_ok_iff.mp h
  obtain ⟨clauses, hClauses, hQuery⟩ := bind_eq_ok_iff.mp h
  cases hQuery
  obtain ⟨rest, hRun⟩ := Clause.run_of_readAll hClauses
  obtain ⟨hClausesTake, hRest⟩ := hRun.takes
  have hTakes := ((Header.read_advances _ _).takes hHeader).trans hClausesTake
  obtain rfl : rest = tail := hTakes.eq_tail hFinish hUs hRest
  exact ⟨header, clauses, hHeader, hRun, rfl⟩

/-- Every reader goes forward over the tokens it is given. Those of an expression, a source, a field, a
header or a clause take at least one token, those that go on behind something may take none. -/
structure ReadersAdvance (text : List Char) (ts : List Lexeme) : Prop where
  symbol (s : Symbol) : Advances 1 ts (takeSymbol s ts)
  name (what : String) : Advances 1 ts (takeName what ts)
  label (what : String) : Advances 1 ts (takeLabel what ts)
  level (level : Nat) : Advances 1 ts (Expr.readLevel level ts)
  chain (below : Nat) (left : Expr) : Advances 0 ts (Expr.readChain below left ts)
  unary : Advances 1 ts (Expr.readUnary ts)
  operand : Advances 1 ts (Expr.readPostfix ts)
  suffixes (base : Expr) : Advances 0 ts (Expr.readSuffixes base ts)
  primary : Advances 1 ts (Expr.readPrimary ts)
  items (closing : Symbol) : Advances 1 ts (Expr.readItems closing ts)
  entries : Advances 1 ts (Expr.readEntries ts)
  link (what : String) : Advances 1 ts (Source.takeLink what ts)
  target : Advances 1 ts (Source.readTarget ts)
  source : Advances 1 ts (Source.read ts)
  sourceChain (left : Source) : Advances 0 ts (Source.readChain left ts)
  sourceAtom : Advances 1 ts (Source.readAtom ts)
  named : Advances 1 ts (NamedExpr.read text ts)
  moreNamed : Advances 0 ts (NamedExpr.readMore text ts)
  direction : Takes 0 ts (SortField.readDirection ts).rest
  sortField : Advances 1 ts (SortField.readOne ts)
  moreSortFields : Advances 0 ts (SortField.readMore ts)
  sortFields : Advances 1 ts (SortField.read ts)
  withoutId : Takes 0 ts (Header.takeWithoutId ts).rest
  columns : Advances 0 ts (Header.readColumns text ts)
  format : Advances 0 ts (Header.readFormat ts)
  header : Advances 1 ts (Header.read text ts)
  groupBy : Advances 1 ts (Clause.takeBy ts)
  clause : Advances 1 ts (Clause.read text ts)

/-- Every reader takes tokens from the front and faults at one of them. -/
theorem readersAdvance (text : List Char) (ts : List Lexeme) : ReadersAdvance text ts where
  symbol s := takeSymbol_advances s ts
  name what := takeName_advances what ts
  label what := takeLabel_advances what ts
  level level := Expr.readLevel_advances level ts
  chain below left := Expr.readChain_advances below left ts
  unary := Expr.readUnary_advances ts
  operand := Expr.readPostfix_advances ts
  suffixes base := Expr.readSuffixes_advances base ts
  primary := Expr.readPrimary_advances ts
  items closing := Expr.readItems_advances closing ts
  entries := Expr.readEntries_advances ts
  link what := Source.takeLink_advances what ts
  target := Source.readTarget_advances ts
  source := Source.read_advances ts
  sourceChain left := Source.readChain_advances left ts
  sourceAtom := Source.readAtom_advances ts
  named := NamedExpr.read_advances text ts
  moreNamed := NamedExpr.readMore_advances text ts
  direction := SortField.readDirection_takes ts
  sortField := SortField.readOne_advances ts
  moreSortFields := SortField.readMore_advances ts
  sortFields := SortField.read_advances ts
  withoutId := Header.takeWithoutId_takes ts
  columns := Header.readColumns_advances text ts
  format := Header.readFormat_advances ts
  header := Header.read_advances text ts
  groupBy := Clause.takeBy_advances ts
  clause := Clause.read_advances text ts

/-- Reading goes forward on any tokens. An expression and a query are read up to the end of their text, and
an error lies at a token of the text or where none can be read. -/
theorem reading_goes_forward (now : Date) (text : String) :
    (∀ ts, ReadersAdvance text.toList ts) ∧
    ((∃ us e, Expr.ofText now text = .ok e ∧ Scan.Cut now text us ∧
        ∃ within, Expr.read (us ++ [Scan.endOf text]) = .ok ⟨e, [Scan.endOf text], within⟩) ∨
      ∃ e, Expr.ofText now text = .error e ∧ e.Located now text) ∧
    ((∃ us q, Query.ofText now text = .ok q ∧ Scan.Cut now text us ∧
        ∃ header cs, Header.read text.toList (us ++ [Scan.endOf text]) = .ok header ∧
          Clause.Run text.toList header.rest cs [Scan.endOf text] ∧
          cs.foldl Query.add ⟨header.value, .everything, []⟩ = q) ∨
      ∃ e, Query.ofText now text = .error e ∧ e.Located now text) ∧
    ((∃ us s, Source.ofText now text = .ok s ∧ Scan.Cut now text us ∧
        ∃ p, Source.read (us ++ [Scan.endOf text]) = .ok p ∧ p.value = s) ∨
      ∃ e, Source.ofText now text = .error e ∧ e.Located now text) := by
  refine ⟨readersAdvance text.toList, ?_, ?_, ?_⟩
  · refine (read_or_located now text _ fun _ _ => Expr.readAll_fault).imp_left ?_
    rintro ⟨us, e, hText, hTiles, hRead⟩
    exact ⟨us, e, hText, hTiles.cut, Expr.read_of_readAll hRead hTiles.notFinish rfl⟩
  · refine (read_or_located now text _ fun _ _ => Query.readAll_fault).imp_left ?_
    rintro ⟨us, q, hText, hTiles, hRead⟩
    exact ⟨us, q, hText, hTiles.cut, Query.run_of_readAll hRead hTiles.notFinish rfl⟩
  · refine (read_or_located now text (fun ts => (Source.read ts).map Parsed.value) ?_).imp_left ?_
    · intro ts f hFault
      cases hRead : Source.read ts with
      | ok p => simp [hRead, Except.map] at hFault
      | error g =>
          obtain rfl : g = f := by simpa [hRead, Except.map] using hFault
          exact (Source.read_advances ts).offset hRead
    · rintro ⟨us, s, hText, hTiles, hRead⟩
      refine ⟨us, s, hText, hTiles.cut, ?_⟩
      cases hSource : Source.read (us ++ [Scan.endOf text]) with
      | ok p => exact ⟨p, rfl, by simpa [hSource, Except.map] using hRead⟩
      | error f => simp [hSource, Except.map] at hRead

end Texts

end DocQuery
