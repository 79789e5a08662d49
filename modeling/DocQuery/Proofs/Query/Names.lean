import Mathlib
import DocQuery.Proofs.Expr.Written
import DocQuery.Proofs.Query.Moved
import DocQuery.Proofs.Query.Progress

/-!
Names that are texts. An expression that is given no name is called by its own text, and this text is read
back as the expression: its tokens are cut from it alone as they are cut from the query, and the reader,
which stopped in the query behind the last of them, stops alone at the end.
-/

namespace DocQuery

open Lexeme

namespace Expr

/-- Behind a part no arguments follow, where the part would have taken them. -/
def Phrase.Apart : Phrase → List Lexeme → List Lexeme → Prop
  | chain .., ts, rest => current ts ≠ .symbol .openParen → current rest ≠ .symbol .openParen
  | primary, _, _ | items _, _, _ | entries, _, _ => True
  | _, _, rest => current rest ≠ .symbol .openParen

/-- No arguments follow what was read as a part that could have taken them. -/
theorem Reads.apart {phrase : Phrase} {ts rest : List Lexeme} {v : phrase.Result}
    (h : Reads phrase ts v rest) : phrase.Apart ts rest := by
  induction h with
  | levelZero _ ih => exact ih
  | levelSucc _ _ ihFirst ihOthers => exact ihOthers ihFirst
  | chainEnd => exact id
  | chainMore _ _ _ ihOperand ihOthers => exact fun _ => ihOthers ihOperand
  | unaryNot _ _ ih => exact ih
  | unaryMinus _ _ ih => exact ih
  | unaryNone _ _ _ ih => exact ih
  | operand _ _ _ ih => exact ih
  | suffixEnd stop =>
      intro hOpen
      rw [hOpen] at stop
      cases stop
  | suffixField _ _ _ ih => exact ih
  | suffixIndex _ _ _ _ _ ih => exact ih
  | suffixCall _ _ _ _ ih => exact ih
  | literal | name | parens | list | object | itemsEnd | itemsLast | itemsMore | entriesEnd | entriesLast
  | entriesMore => trivial

/-- Tokens that are read as an expression in front of others are read as it from their own text. -/
theorem ofText_stretch {now : Date} {before middle : List Char} {ws ts : List Lexeme}
    (hTiles : Scan.Tiles now 0 middle ws none) {p : Parsed Expr ts.length} (hRead : read ts = .ok p)
    (hStretch : ts = ws.map (shift before.length) ++ p.rest) :
    ofText now (String.ofList middle) = .ok p.value := by
  have hReads := reads_of_readLevel hRead
  have hParts : Setting.Parts ⟨before, [], p.rest⟩ ⟨[], [], [⟨.finish, middle.length, middle.length⟩]⟩ :=
    ⟨hReads.apart, rfl⟩
  obtain ⟨left, hRest, -, hAlone⟩ := hReads.moved hParts hStretch (Nat.le_refl _)
  obtain rfl : left = [] := by
    have hLength : p.rest.length = left.length + p.rest.length := by
      simpa [Setting.place] using congrArg List.length hRest
    exact List.eq_nil_of_length_eq_zero (by omega)
  obtain ⟨within, hAnswer⟩ := hAlone.answers
  have hTokens : Setting.place ⟨[], [], [⟨.finish, middle.length, middle.length⟩]⟩ ws =
      ws ++ [⟨.finish, middle.length, middle.length⟩] := by
    have hSame : shift 0 = id := funext fun u => by simp [shift]
    rw [Setting.place, List.length_nil, hSame, List.map_id]
  have hAll : readAll (ws ++ [⟨.finish, middle.length, middle.length⟩]) = .ok p.value := by
    rw [← hTokens]
    exact bind_eq_ok_iff.mpr ⟨_, hAnswer, if_pos rfl⟩
  have hScan := hTiles.run_eq
  rw [Nat.zero_add] at hScan
  rw [ofText, Scan.ofText, String.toList_ofList, hScan]
  exact congrArg (Except.mapError (ReadError.locate (String.ofList middle))) hAll

end Expr

namespace NamedExpr

/-- An expression that is read at some tokens of a text, and what it is with the name it has there. -/
structure Occurrence (text : List Char) where
  start : List Lexeme
  expr : Parsed Expr start.length
  named : Parsed NamedExpr start.length
  readExpr : Expr.read start = .ok expr
  readNamed : NamedExpr.read text start = .ok named

variable {text : List Char}

/-- A named expression that was read is one that occurs in the text. -/
theorem exists_occurrence {ts : List Lexeme} {p : Parsed NamedExpr ts.length} (h : read text ts = .ok p) :
    ∃ o : Occurrence text, o.start = ts ∧ o.named.value = p.value ∧ o.named.rest = p.rest := by
  obtain ⟨e, hExpr, -⟩ := bind_eq_ok_iff.mp h
  exact ⟨⟨ts, e, p, hExpr, h⟩, rfl, rfl, rfl⟩

namespace Occurrence

/-- No name is written behind the expression. -/
def Bare (o : Occurrence text) : Prop := isWord "AS" o.expr.rest = false

/-- An expression without a name is named by its text. -/
theorem named_of_bare (o : Occurrence text) (hBare : o.Bare) :
    o.named.value = ⟨sourceText text o.start o.expr.rest, o.expr.value⟩ := by
  obtain ⟨e, hExpr, h⟩ := bind_eq_ok_iff.mp o.readNamed
  obtain rfl : e = o.expr := Except.ok.inj (hExpr.symm.trans o.readExpr)
  dsimp only at h
  rw [if_neg (by rw [hBare]; exact Bool.false_ne_true)] at h
  exact congrArg Parsed.value (Except.ok.inj h).symm

/-- The tokens that are read lie among those of the text, in front of its end. -/
theorem exists_used {o : Occurrence text} {us tail : List Lexeme} {least : Nat}
    (hStart : Takes least (us ++ tail) o.start) (hFinish : current tail = .finish) :
    ∃ before used behind, us = before ++ used ++ behind ∧ o.start = used ++ o.expr.rest ∧ used ≠ [] := by
  have hTakes := (Expr.read_advances _).takes o.readExpr
  obtain ⟨behind, hRest, -⟩ := (hStart.trans hTakes).exists_of_finish hFinish
  obtain ⟨used, hUsed, hLeast, -⟩ := hTakes
  obtain ⟨before, hBefore, -⟩ := hStart
  have hWhole : us ++ tail = before ++ used ++ behind ++ tail := by
    rw [hBefore, hUsed, hRest, List.append_assoc, List.append_assoc]
  exact ⟨before, used, behind, List.append_cancel_right hWhole, hUsed, List.length_pos_iff.mp hLeast⟩

/-- The text of an expression that has no other name is read back as the expression. -/
theorem ofText_name {now : Date} {us tail : List Lexeme} {least : Nat} {o : Occurrence text}
    (hTiles : Scan.Tiles now 0 text us none) (hStart : Takes least (us ++ tail) o.start)
    (hFinish : current tail = .finish) (hBare : o.Bare) :
    Expr.ofText now o.named.value.name = .ok o.named.value.expr := by
  obtain ⟨before, used, behind, rfl, hUsed, hSome⟩ := exists_used hStart hFinish
  obtain ⟨u, hFirst⟩ := Option.isSome_iff_exists.mp (List.isSome_head?.mpr hSome)
  obtain ⟨w, hLast⟩ := Option.isSome_iff_exists.mp (List.getLast?_isSome.mpr hSome)
  obtain ⟨ws, hShifted, hStretch⟩ := hTiles.between hFirst hLast
  have hPlace : ∀ v ∈ used, v ∈ before ++ used ++ behind := fun v hMem => by simp [hMem]
  have hFirstMem := hPlace u (List.mem_of_head? hFirst)
  have hLastMem := hPlace w (List.mem_of_getLast? hLast)
  have hText : sourceText text o.start o.expr.rest =
      String.ofList ((text.drop u.start).take (w.stop - u.start)) := by
    have hSame := congrArg (sourceText text · o.expr.rest) hUsed
    have hBegin : currentStart used = u.start := by
      obtain ⟨others, rfl⟩ := List.head?_eq_some_iff.mp hFirst
      rfl
    refine (hSame.trans (sourceText_append text used o.expr.rest)).trans ?_
    rw [spelling, hBegin, hLast]
    exact congrArg String.ofList (hTiles.trim_between hFirstMem hLastMem)
  have hLength : (text.take u.start).length = u.start := by
    obtain ⟨-, hSpan, hWithin⟩ := hTiles.spans u hFirstMem
    rw [List.length_take]
    omega
  have hTokens : o.start = ws.map (shift (text.take u.start).length) ++ o.expr.rest := by
    rw [hLength, ← hShifted]
    exact hUsed
  rw [o.named_of_bare hBare, hText]
  exact Expr.ofText_stretch hStretch o.readExpr hTokens

end Occurrence

/-- Expressions that are read with their names one behind the other, with other tokens between them, from
some tokens on up to others. -/
inductive Trail (text : List Char) : List Lexeme → List (Occurrence text) → List Lexeme → Prop where
  | stop {ts rest} (others : Takes 0 ts rest) : Trail text ts [] rest
  | go {ts o os rest} (between : Takes 1 ts o.start) (later : Trail text o.named.rest os rest) :
      Trail text ts (o :: os) rest

variable {ts middle rest : List Lexeme} {os others : List (Occurrence text)} {least : Nat}

theorem Occurrence.takes (o : Occurrence text) : Takes 1 o.start o.named.rest :=
  (read_advances text _).takes o.readNamed

/-- A trail may begin further in front. -/
theorem Trail.behind (h : Trail text middle os rest) (hTakes : Takes least ts middle) :
    Trail text ts os rest := by
  cases h with
  | stop others => exact .stop ((hTakes.trans others).weaken (Nat.zero_le _))
  | go between later => exact .go ((hTakes.trans between).weaken (Nat.le_add_left ..)) later

/-- Trails behind one another are one trail. -/
theorem Trail.append (h : Trail text ts os middle) (hMore : Trail text middle others rest) :
    Trail text ts (os ++ others) rest := by
  induction h with
  | stop skipped => exact hMore.behind skipped
  | go between _ ih => exact .go between (ih hMore)

theorem Trail.takes_start (h : Trail text ts os rest) : ∀ o ∈ os, Takes 0 ts o.start := by
  induction h with
  | stop => exact List.forall_mem_nil _
  | @go ts o os rest between _ ih =>
      refine List.forall_mem_cons.mpr ⟨between.weaken (Nat.zero_le _), fun w hMem => ?_⟩
      exact ((between.trans o.takes).trans (ih w hMem)).weaken (Nat.zero_le _)

/-- The reader of a named expression behind another token. -/
theorem trail_of_read {p : Parsed NamedExpr middle.length} (hTakes : Takes 1 ts middle)
    (h : read text middle = .ok p) :
    ∃ o : Occurrence text, o.named.value = p.value ∧
      ∀ {os rest}, Trail text p.rest os rest → Trail text ts (o :: os) rest := by
  obtain ⟨o, rfl, hValue, hRest⟩ := exists_occurrence h
  exact ⟨o, hValue, fun hLater => .go hTakes (hRest ▸ hLater)⟩

/-- Further named expressions leave a trail. -/
theorem trail_of_readMore {p : Parsed (List NamedExpr) (ts.length + 1)} (h : readMore text ts = .ok p) :
    ∃ os, Trail text ts os p.rest ∧ os.map (·.named.value) = p.value := by
  fun_induction readMore text ts
  case case1 =>
      cases h
      exact ⟨[], .stop (.refl []), rfl⟩
  case case2 t more hComma ih =>
      obtain ⟨named, hNamed, h⟩ := bind_eq_ok_iff.mp h
      obtain ⟨others, hOthers, h⟩ := bind_eq_ok_iff.mp h
      cases h
      have hTakes : Takes 1 (t :: more) more := .cons (by simp [hComma]) (.refl more)
      obtain ⟨o, hValue, hGo⟩ := trail_of_read hTakes hNamed
      obtain ⟨os, hTrail, hValues⟩ := ih named hOthers
      exact ⟨o :: os, hGo hTrail, by rw [List.map_cons, hValue, hValues]⟩
  case case3 t more hComma =>
      cases h
      exact ⟨[], .stop (.refl _), rfl⟩

end NamedExpr

open NamedExpr

def Header.named : Header → List NamedExpr
  | table columns _ => columns
  | calendar field => [field]
  | list .. | task => []

def Operation.named : Operation → List NamedExpr
  | flatten target => [target]
  | group key => [key]
  | filter _ | having _ | sort _ | limit _ => []

def Clause.named : Clause → List NamedExpr
  | source _ => []
  | operation op => op.named

/-- The expressions with names of a query, in the order in which they are written. -/
def Query.named (q : Query) : List NamedExpr := q.header.named ++ q.operations.flatMap Operation.named

variable {text : List Char} {ts : List Lexeme}

theorem Header.trail_of_readColumns {before : List Lexeme} {p : Parsed (List NamedExpr) (ts.length + 1)}
    (hTakes : Takes 1 before ts) (h : readColumns text ts = .ok p) :
    ∃ os, Trail text before os p.rest ∧ os.map (·.named.value) = p.value := by
  rw [readColumns] at h
  split at h
  · cases h
    exact ⟨[], .stop (hTakes.weaken (Nat.zero_le _)), rfl⟩
  · obtain ⟨named, hNamed, h⟩ := bind_eq_ok_iff.mp h
    obtain ⟨others, hOthers, h⟩ := bind_eq_ok_iff.mp h
    cases h
    obtain ⟨o, hValue, hGo⟩ := trail_of_read hTakes hNamed
    obtain ⟨os, hTrail, hValues⟩ := trail_of_readMore hOthers
    exact ⟨o :: os, hGo hTrail, by rw [List.map_cons, hValue, hValues]⟩

/-- The named expressions of a header leave a trail. -/
theorem Header.trail_of_read {p : Parsed Header ts.length} (h : read text ts = .ok p) :
    ∃ os, Trail text ts os p.rest ∧ os.map (·.named.value) = p.value.named := by
  have hWhole : Takes 0 ts p.rest := ((read_advances text ts).takes h).weaken (Nat.zero_le _)
  match ts, p, h with
  | [], p, h => cases h
  | t :: more, p, h =>
      rw [read] at h
      split at h
      · next hToken =>
          have hFirst : Takes 1 (t :: more) more := .cons (by simp [hToken]) (.refl more)
          split at h
          · obtain ⟨columns, hColumns, h⟩ := bind_eq_ok_iff.mp h
            cases h
            exact trail_of_readColumns (hFirst.trans (takeWithoutId_takes more)) hColumns
          · obtain ⟨format, -, h⟩ := bind_eq_ok_iff.mp h
            cases h
            exact ⟨[], .stop hWhole, rfl⟩
          · cases h
            exact ⟨[], .stop hWhole, rfl⟩
          · obtain ⟨field, hField, h⟩ := bind_eq_ok_iff.mp h
            cases h
            obtain ⟨o, hValue, hGo⟩ := NamedExpr.trail_of_read hFirst hField
            exact ⟨[o], hGo (.stop (.refl _)), congrArg (fun n => [n]) hValue⟩
          · cases h
      · cases h

/-- The named expressions of a clause leave a trail. -/
theorem Clause.trail_of_read {p : Parsed Clause ts.length} (h : read text ts = .ok p) :
    ∃ os, Trail text ts os p.rest ∧ os.map (·.named.value) = p.value.named := by
  have hWhole : Takes 0 ts p.rest := ((read_advances text ts).takes h).weaken (Nat.zero_le _)
  match ts, p, h with
  | [], p, h => cases h
  | t :: more, p, h =>
      rw [read] at h
      split at h
      · next hToken =>
          have hFirst : Takes 1 (t :: more) more := .cons (by simp [hToken]) (.refl more)
          split at h
          case h_6 =>
              obtain ⟨target, hTarget, h⟩ := bind_eq_ok_iff.mp h
              cases h
              obtain ⟨o, hValue, hGo⟩ := NamedExpr.trail_of_read hFirst hTarget
              exact ⟨[o], hGo (.stop (.refl _)), congrArg (fun n => [n]) hValue⟩
          case h_7 =>
              obtain ⟨opening, hBy, h⟩ := bind_eq_ok_iff.mp h
              obtain ⟨key, hKey, h⟩ := bind_eq_ok_iff.mp h
              cases h
              have hBefore := (hFirst.trans ((takeBy_advances more).takes hBy)).weaken (Nat.le_succ 1)
              obtain ⟨o, hValue, hGo⟩ := NamedExpr.trail_of_read hBefore hKey
              exact ⟨[o], hGo (.stop (.refl _)), congrArg (fun n => [n]) hValue⟩
          case h_8 => cases h
          all_goals
            obtain ⟨_, -, h⟩ := bind_eq_ok_iff.mp h
            cases h
            exact ⟨[], .stop hWhole, rfl⟩
      · cases h

/-- The named expressions of all clauses leave a trail. -/
theorem Clause.Run.trail {cs : List Clause} {rest : List Lexeme} (h : Run text ts cs rest) :
    ∃ os, Trail text ts os rest ∧ os.map (·.named.value) = cs.flatMap Clause.named := by
  induction h with
  | finish => exact ⟨[], .stop (.refl _), rfl⟩
  | clause _ first _ ih =>
      obtain ⟨os, hTrail, hValues⟩ := trail_of_read first
      obtain ⟨others, hMore, hMoreValues⟩ := ih
      exact ⟨os ++ others, hTrail.append hMore, by
        rw [List.map_append, hValues, hMoreValues, List.flatMap_cons]⟩

/-- Operations that are joined have no names. -/
theorem Operation.named_append (ops : List Operation) (new : Operation) :
    (append ops new).flatMap named = ops.flatMap named ++ new.named := by
  fun_induction append ops new
  case case1 => simp
  case case2 last new joined hJoined =>
      rw [join?.eq_def] at hJoined
      split at hJoined <;> cases hJoined <;> rfl
  case case3 => simp
  case case4 first second rest new ih =>
      rw [List.flatMap_cons, ih, ← List.append_assoc]
      rfl

/-- Clauses add their named expressions to those of the query. -/
theorem Query.named_foldl (cs : List Clause) (q : Query) :
    (cs.foldl add q).named = q.named ++ cs.flatMap Clause.named := by
  induction cs generalizing q with
  | nil => exact (List.append_nil _).symm
  | cons c cs ih =>
      rw [List.foldl_cons, ih, List.flatMap_cons, ← List.append_assoc]
      congr 1
      cases c with
      | source s => exact (List.append_nil _).symm
      | operation op =>
          rw [add, named, Operation.named_append, named, List.append_assoc]
          rfl

namespace Query

/-- The columns, fields, keys and targets of a query are read one behind the other from its tokens. However
they are read, each that is given no name is called by a text that is read back as its expression, at any
time if the query names no date relative to the present. -/
theorem names_read_back {now : Date} {text : String} {q : Query} (hText : ofText now text = .ok q)
    (later : Date) (hPresent : later = now ∨ ∀ t ∈ (Scan.ofText now text).lexemes,
      Token.beginsWithRelativeDate (text.toList.drop t.start) = false) :
    (∃ os, Trail text.toList (Scan.ofText now text).lexemes os [Scan.endOf text] ∧
      os.map (·.named.value) = q.named) ∧
    ∀ os, Trail text.toList (Scan.ofText now text).lexemes os [Scan.endOf text] →
      ∀ o ∈ os, o.Bare → Expr.ofText later o.named.value.name = .ok o.named.value.expr := by
  rcases read_or_located now text _ fun _ _ => readAll_fault with
    ⟨us, q, hRead, hTiles, hAll⟩ | ⟨e, hFault, -⟩
  · obtain rfl := Except.ok.inj (hRead.symm.trans hText)
    have hScan := hTiles.cut.1
    rw [hScan] at hPresent ⊢
    obtain ⟨header, cs, hHeader, hRun, rfl⟩ := run_of_readAll hAll hTiles.notFinish rfl
    obtain ⟨os, hFirst, hValues⟩ := Header.trail_of_read hHeader
    obtain ⟨others, hMore, hMoreValues⟩ := hRun.trail
    have hLater : Scan.Tiles later 0 text.toList us none := by
      rcases hPresent with rfl | hAbsolute
      · exact hTiles
      · exact hTiles.present rfl later fun u hMem => hAbsolute u (List.mem_append_left _ hMem)
    refine ⟨⟨os ++ others, hFirst.append hMore, ?_⟩, fun os hTrail o hMem hBare => ?_⟩
    · rw [named_foldl, List.map_append, hValues, hMoreValues, named]
      simp
    · exact Occurrence.ofText_name hLater (hTrail.takes_start o hMem) rfl hBare
  · cases hFault.symm.trans hText

/-- The tokens of the text `CALENDAR where(a)` behind its first word. -/
private def whereCall : List Lexeme :=
  [⟨.identifier "where", 9, 14⟩, ⟨.symbol .openParen, 14, 15⟩, ⟨.identifier "a", 15, 16⟩,
    ⟨.symbol .closeParen, 16, 17⟩, ⟨.finish, 17, 17⟩]

/-- A word that begins clauses names a function where a parenthesis is glued to it, in the query as well as
in the name of the field. -/
theorem names_read_back_glued :
    ofText ⟨0, 0, 0⟩ "CALENDAR where(a)" =
      .ok ⟨.calendar ⟨"where(a)", .call (.name "where") [.name "a"]⟩, .everything, []⟩ ∧
    (∀ t ∈ (Scan.ofText ⟨0, 0, 0⟩ "CALENDAR where(a)").lexemes,
      Token.beginsWithRelativeDate ("CALENDAR where(a)".toList.drop t.start) = false) ∧
    Expr.ofText ⟨1, 0, 0⟩ "where(a)" = .ok (.call (.name "where") [.name "a"]) := by
  have hChars : "CALENDAR where(a)".toList =
      ['C', 'A', 'L', 'E', 'N', 'D', 'A', 'R', ' ', 'w', 'h', 'e', 'r', 'e', '(', 'a', ')'] := rfl
  have hScan : Scan.ofText ⟨0, 0, 0⟩ "CALENDAR where(a)" =
      ⟨⟨.identifier "CALENDAR", 0, 8⟩ :: whereCall, none⟩ := by
    rw [Scan.ofText, hChars]
    cbv
  have hArgument : Expr.Stands (.name "a") [⟨.identifier "a", 15, 16⟩] 0 :=
    Expr.stands_of_primary fun _ => .name rfl fun hReserved =>
      absurd hReserved (by decide +kernel)
  have hItems (rest : List Lexeme) : Expr.Reads (.items .closeParen)
      (⟨.identifier "a", 15, 16⟩ :: ⟨.symbol .closeParen, 16, 17⟩ :: rest) [.name "a"] rest :=
    .itemsLast (by simp [current])
      ((hArgument.mono (Nat.zero_le _)).reads (Expr.ends_of_symbol rfl rfl rfl)) rfl
  have hCall : Expr.Stands (.call (.name "where") [.name "a"]) (whereCall.take 4) 0 :=
    fun rest _ _ hSuffixes => .operand (.name rfl fun _ => rfl) (.suffixCall rfl (hItems rest) hSuffixes)
  have hReads : Expr.Reads (.level Op.maxLevel) whereCall (.call (.name "where") [.name "a"])
      [⟨.finish, 17, 17⟩] :=
    (hCall.mono (Nat.zero_le _)).reads ⟨rfl, fun _ _ => rfl⟩
  obtain ⟨within, hRead⟩ := hReads.answers
  have hName : NamedExpr.sourceText "CALENDAR where(a)".toList whereCall [⟨.finish, 17, 17⟩] =
      "where(a)" := by
    decide +kernel
  have hField : NamedExpr.read "CALENDAR where(a)".toList whereCall =
      .ok ⟨⟨"where(a)", .call (.name "where") [.name "a"]⟩, [⟨.finish, 17, 17⟩], within⟩ := by
    refine bind_eq_ok_iff.mpr ⟨_, hRead, ?_⟩
    rw [← hName]
    rfl
  have hHeader : Header.read "CALENDAR where(a)".toList (⟨.identifier "CALENDAR", 0, 8⟩ :: whereCall) =
      .ok ⟨.calendar ⟨"where(a)", .call (.name "where") [.name "a"]⟩, [⟨.finish, 17, 17⟩],
        Nat.lt_succ_of_lt within⟩ := by
    rw [Header.read]
    dsimp only
    rw [(by decide +kernel : Text.upper "CALENDAR" = "CALENDAR")]
    exact bind_eq_ok_iff.mpr ⟨_, hField, rfl⟩
  have hClauses : Clause.readAll "CALENDAR where(a)".toList [⟨.finish, 17, 17⟩] = .ok [] := by
    rw [Clause.readAll]
    exact if_pos rfl
  have hAll : readAll "CALENDAR where(a)".toList (⟨.identifier "CALENDAR", 0, 8⟩ :: whereCall) =
      .ok ⟨.calendar ⟨"where(a)", .call (.name "where") [.name "a"]⟩, .everything, []⟩ := by
    refine bind_eq_ok_iff.mpr ⟨_, hHeader, ?_⟩
    exact bind_eq_ok_iff.mpr ⟨[], hClauses, rfl⟩
  have hQuery : ofText ⟨0, 0, 0⟩ "CALENDAR where(a)" =
      .ok ⟨.calendar ⟨"where(a)", .call (.name "where") [.name "a"]⟩, .everything, []⟩ := by
    rw [ofText, hScan]
    exact congrArg (Except.mapError _) hAll
  have hAbsolute : ∀ t ∈ (Scan.ofText ⟨0, 0, 0⟩ "CALENDAR where(a)").lexemes,
      Token.beginsWithRelativeDate ("CALENDAR where(a)".toList.drop t.start) = false := by
    rw [hScan]
    decide +kernel
  refine ⟨hQuery, hAbsolute, ?_⟩
  obtain ⟨⟨os, hTrail, hValues⟩, hNames⟩ := names_read_back hQuery ⟨1, 0, 0⟩ (.inr hAbsolute)
  have hBehind := hNames os hTrail
  rw [hScan] at hTrail
  have hListed : (⟨"where(a)", .call (.name "where") [.name "a"]⟩ : NamedExpr) ∈
      os.map (·.named.value) := by
    rw [hValues]
    exact List.mem_cons_self ..
  obtain ⟨o, hMem, hValue⟩ := List.mem_map.mp hListed
  -- No name is written anywhere, so that none is written behind the field.
  have hNone : ∀ ts ∈ (⟨.identifier "CALENDAR", 0, 8⟩ :: whereCall).tails, isWord "AS" ts = false := by
    decide +kernel
  have hTakes := (hTrail.takes_start o hMem).trans ((Expr.read_advances _).takes o.readExpr)
  have hReadBack := hBehind o hMem (hNone _ ((List.mem_tails _ _).mpr hTakes.suffix))
  rw [hValue] at hReadBack
  exact hReadBack

end Query

end DocQuery
