import DocQuery.Expr.Read

/-!
Readers go forward. A reader that succeeds has passed over tokens at the front of those it was given, and
never over the end of the text; a reader that fails does so at a token it has come to.
-/

namespace DocQuery

open Lexeme

namespace Lexeme

/-- At least so many tokens are passed over, none of which is the end. -/
def Takes (least : Nat) (ts rest : List Lexeme) : Prop :=
  ∃ used, ts = used ++ rest ∧ least ≤ used.length ∧ ∀ u ∈ used, u.token ≠ .finish

variable {least more : Nat} {t : Lexeme} {ts middle rest : List Lexeme}

theorem Takes.refl (ts : List Lexeme) : Takes 0 ts ts :=
  ⟨[], rfl, Nat.le_refl 0, List.forall_mem_nil _⟩

theorem Takes.cons (hToken : t.token ≠ .finish) (h : Takes least ts rest) :
    Takes (least + 1) (t :: ts) rest := by
  obtain ⟨used, rfl, hLeast, hUsed⟩ := h
  exact ⟨t :: used, rfl, Nat.succ_le_succ hLeast, List.forall_mem_cons.mpr ⟨hToken, hUsed⟩⟩

/-- Tokens that are taken one after the other are taken together. -/
theorem Takes.trans (h : Takes least ts middle) (hMore : Takes more middle rest) :
    Takes (least + more) ts rest := by
  obtain ⟨used, rfl, hLeast, hUsed⟩ := h
  obtain ⟨others, rfl, hOthersLeast, hOthers⟩ := hMore
  refine ⟨used ++ others, (List.append_assoc ..).symm, ?_, fun u hMem => ?_⟩
  · rw [List.length_append]
    exact Nat.add_le_add hLeast hOthersLeast
  · exact (List.mem_append.mp hMem).elim (hUsed u) (hOthers u)

theorem Takes.weaken (h : Takes least ts rest) (hFewer : more ≤ least) : Takes more ts rest := by
  obtain ⟨used, hText, hLeast, hUsed⟩ := h
  exact ⟨used, hText, Nat.le_trans hFewer hLeast, hUsed⟩

theorem Takes.suffix (h : Takes least ts rest) : rest <:+ ts := by
  obtain ⟨used, rfl, -⟩ := h
  exact List.suffix_append used rest

/-- Tokens that begin with the end are not passed over, also not in part. -/
theorem Takes.exists_of_finish {us tail : List Lexeme} (h : Takes least (us ++ tail) rest)
    (hFinish : current tail = .finish) : ∃ left, rest = left ++ tail ∧ left <:+ us := by
  obtain ⟨used, hText, -, hUsed⟩ := h
  rcases List.append_eq_append_iff.mp hText with ⟨others, rfl, rfl⟩ | ⟨left, rfl, hRest⟩
  · cases others with
    | nil => exact ⟨[], rfl, List.nil_suffix⟩
    | cons u others => exact absurd hFinish (hUsed u (List.mem_append_right _ (List.mem_cons_self ..)))
  · exact ⟨left, hRest, List.suffix_append used left⟩

/-- Where the end comes next, all other tokens are passed over. -/
theorem Takes.eq_tail {us tail : List Lexeme} (h : Takes least (us ++ tail) rest)
    (hFinish : current tail = .finish) (hUs : ∀ u ∈ us, u.token ≠ .finish)
    (hEnd : current rest = .finish) : rest = tail := by
  obtain ⟨left, rfl, hLeft⟩ := h.exists_of_finish hFinish
  cases left with
  | nil => rfl
  | cons u left => exact absurd hEnd (hUs u (hLeft.subset (List.mem_cons_self ..)))

/-- What a reader comes to: it succeeds behind at least so many tokens, or fails at a token. -/
def Advances {α : Type} {n : Nat} (least : Nat) (ts : List Lexeme) :
    Except FaultAt (Parsed α n) → Prop
  | .ok p => Takes least ts p.rest
  | .error f => ∃ rest, Takes 0 ts rest ∧ f.offset = currentStart rest

variable {α β : Type} {n m : Nat} {outcome : Except FaultAt (Parsed α n)}

theorem Advances.takes (h : Advances least ts outcome) {p : Parsed α n} (hOk : outcome = .ok p) :
    Takes least ts p.rest := by
  rw [hOk] at h
  exact h

theorem Advances.offset (h : Advances least ts outcome) {f : FaultAt} (hFault : outcome = .error f) :
    ∃ rest, Takes 0 ts rest ∧ f.offset = currentStart rest := by
  rw [hFault] at h
  exact h

/-- A fault at the next token lies where the reader is. -/
theorem Advances.fault (ts : List Lexeme) (fault : ReadFault) :
    Advances least ts (.error (faultHere ts fault) : Except FaultAt (Parsed α n)) :=
  ⟨ts, .refl ts, rfl⟩

theorem Advances.weaken (h : Advances least ts outcome) : Advances 0 ts outcome := by
  cases outcome with
  | ok p => exact Takes.weaken h (Nat.zero_le _)
  | error f => exact h

/-- A reader that goes on behind some tokens. -/
theorem Takes.advances (h : Takes least ts middle) (hNext : Advances 0 middle outcome) :
    Advances least ts outcome := by
  cases outcome with
  | ok p => exact h.trans hNext
  | error f =>
      obtain ⟨rest, hRest, hOffset⟩ := hNext
      exact ⟨rest, (h.trans hRest).weaken (Nat.zero_le _), hOffset⟩

theorem Advances.token (hToken : t.token ≠ .finish) (h : Advances 0 ts outcome) :
    Advances 1 (t :: ts) outcome :=
  ((Takes.refl ts).cons hToken).advances h

/-- A reader that goes on where another one has stopped. -/
theorem Advances.bind {next : Parsed α n → Except FaultAt (Parsed β m)}
    (h : Advances least ts outcome) (hNext : ∀ p, Advances 0 p.rest (next p)) :
    Advances least ts (outcome >>= next) := by
  cases outcome with
  | ok p => exact Takes.advances h (hNext p)
  | error f => exact h

/-- A result that is only changed, not read on from. -/
theorem Advances.map_widen (h : Advances least ts outcome) (f : α → β) (hWiden : n ≤ m) :
    Advances least ts (outcome >>= fun p => pure ((p.map f).widen hWiden)) :=
  h.bind fun p => .refl p.rest

/-! Single tokens. -/

theorem takeSymbol_advances (s : Symbol) (ts : List Lexeme) : Advances 1 ts (takeSymbol s ts) := by
  cases ts with
  | nil => exact .fault [] _
  | cons t rest =>
      rw [takeSymbol]
      split
      · next hToken => exact .cons (by simp [hToken]) (.refl rest)
      · exact .fault (t :: rest) _

theorem takeName_advances (what : String) (ts : List Lexeme) : Advances 1 ts (takeName what ts) := by
  cases ts with
  | nil => exact .fault [] _
  | cons t rest =>
      rw [takeName]
      split
      · next hToken => exact .cons (by simp [hToken]) (.refl rest)
      · exact .fault (t :: rest) _

theorem takeLabel_advances (what : String) (ts : List Lexeme) : Advances 1 ts (takeLabel what ts) := by
  cases ts with
  | nil => exact .fault [] _
  | cons t rest =>
      rw [takeLabel]
      split
      · next hToken => exact .cons (by simp [hToken]) (.refl rest)
      · next hToken => exact .cons (by simp [hToken]) (.refl rest)
      · exact .fault (t :: rest) _

/-- A word that comes next can be passed over. -/
theorem Takes.word {word : String} (hWord : isWord word ts = true) : Takes 1 ts (ts.drop 1) := by
  cases ts with
  | nil => cases hWord
  | cons t rest =>
      refine .cons (fun hFinish => ?_) (.refl rest)
      rw [isWord, current, hFinish] at hWord
      cases hWord

end Lexeme

namespace Expr

mutual

/-- A level takes at least one token. -/
theorem readLevel_advances (level : Nat) (ts : List Lexeme) : Advances 1 ts (readLevel level ts) := by
  match level with
  | 0 =>
      rw [readLevel]
      exact readUnary_advances ts
  | below + 1 =>
      rw [readLevel]
      refine (readLevel_advances below ts).bind fun left => ?_
      have := left.within
      exact (readChain_advances below left.value left.rest).bind fun chain => .refl chain.rest
termination_by (ts.length, level + 3)

theorem readChain_advances (below : Nat) (left : Expr) (ts : List Lexeme) :
    Advances 0 ts (readChain below left ts) := by
  match ts with
  | [] =>
      rw [readChain]
      exact .refl []
  | t :: rest =>
      rw [readChain]
      split
      · exact .refl (t :: rest)
      · next op hOp =>
          refine Advances.weaken (.token (fun hFinish => ?_) ((readLevel_advances below rest).weaken.bind
            fun right => ?_))
          · rw [hFinish] at hOp
            cases hOp
          · have := right.within
            exact (readChain_advances below (binary op left right.value) right.rest).bind
              fun chain => .refl chain.rest
termination_by (ts.length, 0)

theorem readUnary_advances (ts : List Lexeme) : Advances 1 ts (readUnary ts) := by
  match ts with
  | [] =>
      rw [readUnary]
      exact readPostfix_advances []
  | t :: rest =>
      rw [readUnary]
      split
      · next hBang =>
          exact .token (by simp [hBang]) ((readUnary_advances rest).weaken.map_widen not _)
      · split
        · next hMinus =>
            exact .token (by simp [hMinus]) ((readUnary_advances rest).weaken.map_widen negate _)
        · exact readPostfix_advances (t :: rest)
termination_by (ts.length, 2)

theorem readPostfix_advances (ts : List Lexeme) : Advances 1 ts (readPostfix ts) := by
  rw [readPostfix]
  refine (readPrimary_advances ts).bind fun base => ?_
  have := base.within
  exact (readSuffixes_advances base.value base.rest).bind fun chain => .refl chain.rest
termination_by (ts.length, 1)

/-- Suffixes may take no token. -/
theorem readSuffixes_advances (base : Expr) (ts : List Lexeme) :
    Advances 0 ts (readSuffixes base ts) := by
  match ts with
  | [] =>
      rw [readSuffixes]
      exact .refl []
  | t :: rest =>
      rw [readSuffixes]
      split
      · next hDot =>
          refine Advances.weaken (.token (by simp [hDot])
            ((takeName_advances _ rest).weaken.bind fun name => ?_))
          have := name.within
          exact (readSuffixes_advances (property base name.value) name.rest).bind
            fun chain => .refl chain.rest
      split
      · next hOpen =>
          refine Advances.weaken (.token (by simp [hOpen])
            ((readLevel_advances Op.maxLevel rest).weaken.bind fun inner => ?_))
          refine (takeSymbol_advances .closeBracket inner.rest).weaken.bind fun close => ?_
          have := inner.within
          have := close.within
          exact (readSuffixes_advances (index base inner.value) close.rest).bind
            fun chain => .refl chain.rest
      split
      · next hOpen =>
          refine Advances.weaken (.token (by simp [hOpen])
            ((readItems_advances .closeParen rest).weaken.bind fun args => ?_))
          have := args.within
          exact (readSuffixes_advances (call base args.value) args.rest).bind
            fun chain => .refl chain.rest
      · exact .refl (t :: rest)
termination_by (ts.length, 0)

/-- A primary takes at least one token. -/
theorem readPrimary_advances (ts : List Lexeme) : Advances 1 ts (readPrimary ts) := by
  match ts with
  | [] =>
      rw [readPrimary]
      exact .fault [] _
  | t :: rest =>
      rw [readPrimary]
      split
      · next hLiteral =>
          refine .cons (fun hFinish => ?_) (.refl rest)
          rw [hFinish] at hLiteral
          cases hLiteral
      · next hToken =>
          split
          · exact .fault (t :: rest) _
          · exact .cons (by simp [hToken]) (.refl rest)
      · next hToken =>
          refine .token (by simp [hToken])
            ((readLevel_advances Op.maxLevel rest).weaken.bind fun inner => ?_)
          exact (takeSymbol_advances .closeParen inner.rest).weaken.bind fun close => .refl close.rest
      · next hToken =>
          exact .token (by simp [hToken])
            ((readItems_advances .closeBracket rest).weaken.map_widen list _)
      · next hToken =>
          exact .token (by simp [hToken]) ((readEntries_advances rest).weaken.map_widen _ _)
      · exact .fault (t :: rest) _
termination_by (ts.length, 0)

theorem readItems_advances (closing : Symbol) (ts : List Lexeme) :
    Advances 1 ts (readItems closing ts) := by
  match ts with
  | [] =>
      rw [readItems]
      exact .fault [] _
  | t :: rest =>
      rw [readItems]
      split
      · next hToken => exact .cons (by simp [hToken]) (.refl rest)
      · refine (readLevel_advances Op.maxLevel (t :: rest)).bind fun item => ?_
        dsimp only
        split
        · exact (takeSymbol_advances closing item.rest).weaken.bind fun close => .refl close.rest
        · refine (takeSymbol_advances .comma item.rest).weaken.bind fun comma => ?_
          have : comma.rest.length < rest.length + 1 := Nat.lt_trans comma.within item.within
          exact (readItems_advances closing comma.rest).weaken.bind fun others => .refl others.rest
termination_by (ts.length, Op.maxLevel + 4)

theorem readEntries_advances (ts : List Lexeme) : Advances 1 ts (readEntries ts) := by
  match ts with
  | [] =>
      rw [readEntries]
      exact .fault [] _
  | t :: rest =>
      rw [readEntries]
      split
      · next hToken => exact .cons (by simp [hToken]) (.refl rest)
      · refine (takeLabel_advances _ (t :: rest)).bind fun key => ?_
        refine (takeSymbol_advances .colon key.rest).weaken.bind fun colon => ?_
        have hColon : colon.rest.length < rest.length + 1 := Nat.lt_trans colon.within key.within
        refine (readLevel_advances Op.maxLevel colon.rest).weaken.bind fun value => ?_
        dsimp only
        split
        · exact (takeSymbol_advances .closeBrace value.rest).weaken.bind fun close => .refl close.rest
        · refine (takeSymbol_advances .comma value.rest).weaken.bind fun comma => ?_
          have : comma.rest.length < rest.length + 1 :=
            Nat.lt_trans (Nat.lt_trans comma.within value.within) hColon
          exact (readEntries_advances comma.rest).weaken.bind fun others => .refl others.rest
termination_by (ts.length, 0)

end

theorem read_advances (ts : List Lexeme) : Advances 1 ts (read ts) := readLevel_advances Op.maxLevel ts

end Expr

end DocQuery
