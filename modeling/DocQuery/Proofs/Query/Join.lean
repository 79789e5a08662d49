import DocQuery.Proofs.Expr.RoundTrip
import DocQuery.Proofs.Query.Merge
import DocQuery.Proofs.Query.Moved

/-!
Queries put together from the texts of their clauses. Each clause is read where it stands as it is read
alone, because the word that begins the next clause goes on with no expression and no source.
-/

namespace DocQuery

open Lexeme Token

namespace Scan

variable {now : Date}

theorem run_task (now : Date) (cs : List Char) :
    run now 0 0 ('T' :: 'A' :: 'S' :: 'K' :: ' ' :: cs) =
      (run now 0 5 cs).cons ⟨.identifier "TASK", 0, 4⟩ := by
  have hWritten : (written (.identifier "TASK")).toList = ['T', 'A', 'S', 'K'] := rfl
  have hTask : ReadsBack (.identifier "TASK") :=
    readsBack_word hWritten (by decide) (List.all_eq_true.mp rfl) (by decide)
  exact run_readsBack hTask cs 0

/-- A reserved word is a token of its own, whatever stands behind its blank. -/
theorem run_reserved {word : String} (hReserved : isReserved word = true) (cs : List Char) (offset : Nat) :
    run now 0 offset (word.toList ++ ' ' :: cs) =
      (run now 0 (offset + word.toList.length + 1) cs).cons
        ⟨.identifier word, offset, offset + word.toList.length⟩ :=
  run_readsBack (readsBack_reserved hReserved) cs offset

/-- Where a word that begins a clause comes next, the clause before it ends. -/
theorem atBoundary_run {word : String} (hReserved : isReserved word = true) (payload : List Char)
    (offset : Nat) :
    Header.atBoundary (run now 0 offset (word.toList ++ ' ' :: payload)).lexemes = true := by
  have hApart : isCall (⟨.identifier word, offset, offset + word.toList.length⟩ ::
      (run now 0 (offset + word.toList.length + 1) payload).lexemes) = false := by
    generalize hMore : (run now 0 (offset + word.toList.length + 1) payload).lexemes = ts
    cases ts with
    | nil => rfl
    | cons u ts =>
        have hBehind : offset + word.toList.length + 1 ≤ u.start :=
          offset_le_start (hMore ▸ List.mem_cons_self ..)
        rw [isCall, Bool.and_eq_false_iff, beq_eq_false_iff_ne]
        exact .inr (Nat.ne_of_lt hBehind)
  rw [run_reserved hReserved, Header.atBoundary, cons, hApart]
  exact Bool.and_eq_true_iff.mpr ⟨hReserved, rfl⟩

end Scan

theorem Header.read_task (text : List Char) (start stop : Nat) (rest : List Lexeme) :
    Header.read text (⟨.identifier "TASK", start, stop⟩ :: rest) =
      .ok ⟨.task, rest, Nat.lt_succ_self _⟩ := by
  rw [Header.read]
  dsimp only
  rw [(by decide : Text.upper "TASK" = "TASK")]
  rfl

namespace Clause

/-- No clause is read only from the end of a text. -/
theorem readAll_eq_nil_iff {text : List Char} {ts : List Lexeme} :
    readAll text ts = .ok [] ↔ current ts = .finish := by
  rw [readAll]
  split
  · next hFinish => exact iff_of_true rfl hFinish
  · next hFinish =>
      refine iff_of_false (fun h => ?_) hFinish
      obtain ⟨p, -, h⟩ := bind_eq_ok_iff.mp h
      obtain ⟨others, -, h⟩ := bind_eq_ok_iff.mp h
      cases h

/-- Clauses are read one behind the other. -/
theorem readAll_eq_cons_iff {text : List Char} {ts : List Lexeme} {clause : Clause}
    {others : List Clause} : readAll text ts = .ok (clause :: others) ↔
      ∃ p, read text ts = .ok p ∧ p.value = clause ∧ readAll text p.rest = .ok others := by
  rw [readAll]
  split
  · next hFinish =>
      refine iff_of_false nofun ?_
      rintro ⟨p, hRead, -⟩
      cases (read_finish hFinish).symm.trans hRead
  · next hFinish =>
      constructor
      · intro h
        obtain ⟨p, hRead, h⟩ := bind_eq_ok_iff.mp h
        obtain ⟨more, hMore, h⟩ := bind_eq_ok_iff.mp h
        cases h
        exact ⟨p, hRead, rfl, hMore⟩
      · rintro ⟨p, hRead, rfl, hMore⟩
        exact bind_eq_ok_iff.mpr ⟨p, hRead, bind_eq_ok_iff.mpr ⟨others, hMore, rfl⟩⟩

theorem operation_ne_everything (op : Operation) : operation op ≠ .source .everything := by
  simp

/-- No clause selects everything. -/
theorem read_ne_everything {text : List Char} {ts : List Lexeme} {p : Parsed Clause ts.length}
    (h : read text ts = .ok p) : p.value ≠ .source .everything := by
  match ts, p, h with
  | [], p, h => cases h
  | t :: more, p, h =>
      rw [read] at h
      split at h
      · split at h
        · obtain ⟨selected, hSelected, h⟩ := bind_eq_ok_iff.mp h
          cases h
          exact fun hEverything => Source.read_ne_everything hSelected (Clause.source.inj hEverything)
        · obtain ⟨e, -, h⟩ := bind_eq_ok_iff.mp h
          cases h
          exact operation_ne_everything _
        · obtain ⟨e, -, h⟩ := bind_eq_ok_iff.mp h
          cases h
          exact operation_ne_everything _
        · obtain ⟨fields, -, h⟩ := bind_eq_ok_iff.mp h
          cases h
          exact operation_ne_everything _
        · obtain ⟨amount, -, h⟩ := bind_eq_ok_iff.mp h
          cases h
          exact operation_ne_everything _
        · obtain ⟨target, -, h⟩ := bind_eq_ok_iff.mp h
          cases h
          exact operation_ne_everything _
        · obtain ⟨opening, -, h⟩ := bind_eq_ok_iff.mp h
          obtain ⟨key, -, h⟩ := bind_eq_ok_iff.mp h
          cases h
          exact operation_ne_everything _
        · cases h
      · cases h

theorem readAll_ne_everything {text : List Char} {ts : List Lexeme} {clauses : List Clause}
    (h : readAll text ts = .ok clauses) : ∀ clause ∈ clauses, clause ≠ .source .everything := by
  induction clauses generalizing ts with
  | nil => exact List.forall_mem_nil _
  | cons clause others ih =>
      obtain ⟨p, hRead, rfl, hMore⟩ := readAll_eq_cons_iff.mp h
      exact List.forall_mem_cons.mpr ⟨read_ne_everything hRead, ih hMore⟩

end Clause

namespace Query

/-- Reads a text as a header and its clauses, before the clauses are taken together. -/
def partsOfText (now : Date) (text : String) : Except ReadError (Header × List Clause) :=
  ((Scan.ofText now text).lexemes?.bind fun ts => do
    let header ← Header.read text.toList ts
    let clauses ← Clause.readAll text.toList header.rest
    return (header.value, clauses)).mapError (ReadError.locate text)

/-- A text is taken apart into its header and its clauses. -/
theorem partsOfText_eq_ok_iff {now : Date} {text : String} {h : Header} {clauses : List Clause} :
    partsOfText now text = .ok (h, clauses) ↔ ∃ ts p, Scan.ofText now text = ⟨ts, none⟩ ∧
      Header.read text.toList ts = .ok p ∧ p.value = h ∧
      Clause.readAll text.toList p.rest = .ok clauses := by
  rw [partsOfText, mapError_eq_ok_iff]
  obtain ⟨ts, fault⟩ := Scan.ofText now text
  cases fault with
  | some f => exact iff_of_false nofun (by rintro ⟨_, _, ⟨⟩, _⟩)
  | none =>
      constructor
      · intro h
        obtain ⟨_, ⟨⟩, h⟩ := bind_eq_ok_iff.mp h
        obtain ⟨p, hHeader, h⟩ := bind_eq_ok_iff.mp h
        obtain ⟨more, hClauses, h⟩ := bind_eq_ok_iff.mp h
        cases h
        exact ⟨ts, p, rfl, hHeader, rfl, hClauses⟩
      · rintro ⟨_, p, ⟨⟩, hHeader, rfl, hClauses⟩
        exact bind_eq_ok_iff.mpr ⟨ts, rfl, bind_eq_ok_iff.mpr ⟨p, hHeader,
          bind_eq_ok_iff.mpr ⟨clauses, hClauses, rfl⟩⟩⟩

/-- A query is read from what its header and its clauses come to. -/
theorem ofText_eq_ok_iff {now : Date} {text : String} {q : Query} : ofText now text = .ok q ↔
    ∃ h clauses, partsOfText now text = .ok (h, clauses) ∧ ofClauses h clauses = q := by
  have hSame : ofText now text =
      (partsOfText now text).map fun parts => parts.2.foldl add ⟨parts.1, .everything, []⟩ := by
    rw [ofText, partsOfText]
    cases (Scan.ofText now text).lexemes? with
    | error f => rfl
    | ok ts =>
        cases hHeader : Header.read text.toList ts with
        | error f => simp [Except.bind, readAll, hHeader, bind, Except.mapError, Except.map]
        | ok header =>
            cases hClauses : Clause.readAll text.toList header.rest <;>
              simp [Except.bind, readAll, hHeader, hClauses, bind, Except.mapError, Except.map, pure,
                Except.pure]
  have hWhole {h : Header} {clauses : List Clause} (hParts : partsOfText now text = .ok (h, clauses)) :
      ofText now text = .ok (ofClauses h clauses) := by
    obtain ⟨ts, p, -, -, -, hClauses⟩ := partsOfText_eq_ok_iff.mp hParts
    rw [hSame, hParts, ← foldl_add_eq_ofClauses (Clause.readAll_ne_everything hClauses)]
    rfl
  constructor
  · intro hText
    cases hParts : partsOfText now text with
    | error e =>
        rw [hSame, hParts] at hText
        cases hText
    | ok parts =>
        obtain ⟨h, clauses⟩ := parts
        exact ⟨h, clauses, rfl, Except.ok.inj ((hWhole hParts).symm.trans hText)⟩
  · rintro ⟨h, clauses, hParts, rfl⟩
    exact hWhole hParts

/-- A text that is read as a query of no clauses has none. -/
theorem partsOfText_of_ofText {now : Date} {text : String} {h : Header}
    (hText : ofText now text = .ok ⟨h, .everything, []⟩) : partsOfText now text = .ok (h, []) := by
  obtain ⟨h', clauses, hParts, hQuery⟩ := ofText_eq_ok_iff.mp hText
  obtain ⟨ts, p, -, -, -, hClauses⟩ := partsOfText_eq_ok_iff.mp hParts
  obtain ⟨rfl, rfl⟩ := eq_nil_of_ofClauses (Clause.readAll_ne_everything hClauses) hQuery
  exact hParts

/-- A text of one clause: a word that begins clauses and more text behind a blank, read behind `TASK` as
that clause. -/
structure IsClauseText (now : Date) (text : String) (clause : Clause) : Prop where
  begins : ∃ word payload, isReserved word = true ∧ text = word ++ " " ++ payload
  alone : partsOfText now ("TASK " ++ text) = .ok (.task, [clause])

/-- The texts of clauses, each behind a blank. -/
def clauseChars (texts : List String) : List Char := texts.flatMap fun text => ' ' :: text.toList

theorem clauseChars_cons (text : String) (texts : List String) :
    clauseChars (text :: texts) = ' ' :: (text.toList ++ clauseChars texts) :=
  rfl

/-- Joined texts stand behind the header, each behind a blank. -/
theorem toList_join (header : String) (texts : List String) :
    (" ".intercalate (header :: texts)).toList = header.toList ++ clauseChars texts := by
  rw [String.toList_intercalate]
  induction texts generalizing header with
  | nil => simp [clauseChars]
  | cons text texts ih =>
      rw [List.map_cons, List.map_cons, List.intercalate_cons_cons, ← List.map_cons, ih, clauseChars_cons]
      simp

theorem apart_clauseChars (texts : List String) : Apart (clauseChars texts) := by
  cases texts with
  | nil => exact .inl rfl
  | cons text texts => exact .inr ⟨_, rfl⟩

/-- The tokens of a clause are read as the clause in front of any further ones. -/
theorem IsClauseText.exists_cuts {now : Date} {text : String} {clause : Clause}
    (h : IsClauseText now text clause) : ∃ us, Scan.Cuts now 0 0 text.toList us ∧ Closed us ∧
      ∀ s : Setting, Header.atBoundary s.tail = true →
        ∃ within, Clause.read (s.text text.toList) (s.place us) = .ok ⟨clause, s.tail, within⟩ := by
  have hChars : ("TASK " ++ text).toList = 'T' :: 'A' :: 'S' :: 'K' :: ' ' :: text.toList := by
    rw [String.toList_append]
    rfl
  obtain ⟨ts, p, hScan, hHeader, -, hClauses⟩ := partsOfText_eq_ok_iff.mp h.alone
  rw [Scan.ofText, hChars, Scan.run_task] at hScan
  obtain ⟨us, hCuts⟩ := Scan.exists_cuts_of_fault (congrArg Scan.fault hScan)
  rw [hCuts.run_alone] at hScan
  cases hScan
  cases (Header.read_task ..).symm.trans hHeader
  obtain ⟨q, hRead, rfl, hEnd⟩ := Clause.readAll_eq_cons_iff.mp hClauses
  let alone : Setting := ⟨['T', 'A', 'S', 'K', ' '], [],
    [⟨.finish, 5 + text.toList.length, 5 + text.toList.length⟩]⟩
  have hText : alone.text text.toList = ("TASK " ++ text).toList := by
    rw [hChars, Setting.text, List.append_nil]
    rfl
  have hClause : Clause.read (alone.text text.toList) (alone.place us) = .ok q := by
    rw [hText]
    exact hRead
  have hJoined (s : Setting) (hBoundary : Header.atBoundary s.tail = true) : Closed us ∧
      ∃ within, Clause.read (s.text text.toList) (s.place us) = .ok ⟨q.value, s.tail, within⟩ := by
    have hMeets : Setting.Meets alone s := ⟨rfl, hBoundary⟩
    exact (Clause.read_follows hMeets hCuts.within).whole hCuts.notFinish hClause
      (Clause.readAll_eq_nil_iff.mp hEnd)
  exact ⟨us, hCuts, (hJoined alone rfl).1, fun s hBoundary => (hJoined s hBoundary).2⟩

/-- Where a clause comes next, the part before it ends. -/
theorem IsClauseText.atBoundary {now : Date} {text : String} {clause : Clause}
    (h : IsClauseText now text clause) (texts : List String) (offset : Nat) :
    Header.atBoundary (Scan.run now 0 offset (clauseChars (text :: texts))).lexemes = true := by
  obtain ⟨word, payload, hReserved, rfl⟩ := h.begins
  have hChars : (word ++ " " ++ payload).toList ++ clauseChars texts =
      word.toList ++ ' ' :: (payload.toList ++ clauseChars texts) := by
    rw [String.toList_append, String.toList_append, List.append_assoc, List.append_assoc]
    rfl
  rw [clauseChars_cons, Scan.run_blank, hChars]
  exact Scan.atBoundary_run hReserved _ _

/-- Clauses are read one after another as each of them is read alone. -/
theorem readAll_clauseChars {now : Date} {texts : List String} {clauses : List Clause}
    (h : List.Forall₂ (IsClauseText now) texts clauses) (before : List Char) :
    ∃ ts, Scan.run now 0 before.length (clauseChars texts) = ⟨ts, none⟩ ∧
      Header.atBoundary ts = true ∧ Clause.readAll (before ++ clauseChars texts) ts = .ok clauses := by
  -- Tokens know their places in the whole text, so the clauses already read stay in front of it.
  induction h generalizing before with
  | nil => exact ⟨_, rfl, rfl, Clause.readAll_eq_nil_iff.mpr rfl⟩
  | @cons text clause texts clauses hFirst _ ih =>
      obtain ⟨us, hCuts, hClosed, hRead⟩ := hFirst.exists_cuts
      obtain ⟨tail, hRun, hBoundary, hAll⟩ := ih (before ++ ' ' :: text.toList)
      let s : Setting := ⟨before ++ [' '], clauseChars texts, tail⟩
      obtain ⟨within, hClause⟩ := hRead s hBoundary
      have hLength : (before ++ ' ' :: text.toList).length = before.length + 1 + text.toList.length := by
        rw [List.length_append, List.length_cons]
        omega
      have hWhole : Scan.run now 0 before.length (clauseChars (text :: texts)) =
          ⟨s.place us, none⟩ := by
        rw [clauseChars_cons, Scan.run_blank, hCuts.run_append hClosed (apart_clauseChars texts), ← hLength,
          hRun, Setting.place, List.length_append, List.length_singleton]
        rfl
      have hText : s.text text.toList = before ++ clauseChars (text :: texts) := by
        rw [clauseChars_cons, Setting.text, List.append_assoc]
        rfl
      have hMore : before ++ ' ' :: text.toList ++ clauseChars texts = s.text text.toList := by
        rw [hText, clauseChars_cons, List.append_assoc]
        rfl
      refine ⟨s.place us, hWhole, ?_, ?_⟩
      · have hBegins := hFirst.atBoundary texts before.length
        rwa [hWhole] at hBegins
      · rw [hMore] at hAll
        rw [← hText]
        exact Clause.readAll_eq_cons_iff.mpr ⟨_, hClause, rfl, hAll⟩

/-- A header and clauses that are read alone are read together. -/
theorem partsOfText_join {now : Date} {header : String} {h : Header}
    (hHeader : partsOfText now header = .ok (h, [])) {texts : List String} {clauses : List Clause}
    (hClauses : List.Forall₂ (IsClauseText now) texts clauses) :
    partsOfText now (" ".intercalate (header :: texts)) = .ok (h, clauses) := by
  obtain ⟨ts, p, hScan, hRead, rfl, hEnd⟩ := partsOfText_eq_ok_iff.mp hHeader
  obtain ⟨us, hCuts⟩ := Scan.exists_cuts_of_fault (congrArg Scan.fault hScan)
  rw [Scan.ofText, hCuts.run_alone] at hScan
  cases hScan
  obtain ⟨tail, hRun, hBoundary, hAll⟩ := readAll_clauseChars hClauses header.toList
  let alone : Setting := ⟨[], [], [⟨.finish, 0 + header.toList.length, 0 + header.toList.length⟩]⟩
  let joined : Setting := ⟨[], clauseChars texts, tail⟩
  have hMeets : Setting.Meets alone joined := ⟨rfl, hBoundary⟩
  have hAlone : Header.read (alone.text header.toList) (alone.place us) = .ok p := by
    rw [Setting.text, List.append_nil]
    exact hRead
  obtain ⟨hClosed, within, hJoined⟩ := (Header.read_follows hMeets hCuts.within).whole hCuts.notFinish
    hAlone (Clause.readAll_eq_nil_iff.mp hEnd)
  have hWhole : Scan.run now 0 0 (header.toList ++ clauseChars texts) = ⟨joined.place us, none⟩ := by
    rw [hCuts.run_append hClosed (apart_clauseChars texts), Nat.zero_add, hRun]
    rfl
  refine partsOfText_eq_ok_iff.mpr ⟨joined.place us, ⟨p.value, joined.tail, within⟩, ?_, ?_, rfl, ?_⟩
  · rw [Scan.ofText, toList_join]
    exact hWhole
  · rw [toList_join]
    exact hJoined
  · rw [toList_join]
    exact hAll

/-- The words in front of one expression, with the operations that they stand for. -/
def conditionWords : List (String × (Expr → Operation)) :=
  [("WHERE", .filter), ("HAVING", .having), ("LIMIT", .limit)]

section

variable {word : String} {operation : Expr → Operation}

/-- A word that announces a condition makes a clause of it. -/
theorem read_conditionWord (hWord : (word, operation) ∈ conditionWords) {text : List Char}
    {rest : List Lexeme} {p : Parsed Expr rest.length} (hRead : Expr.read rest = .ok p) (start stop : Nat) :
    Clause.read text (⟨.identifier word, start, stop⟩ :: rest) =
      .ok ((p.map fun e => .operation (operation e)).widen (Nat.le_succ _)) := by
  simp only [conditionWords, List.mem_cons, Prod.mk.injEq, List.not_mem_nil, or_false] at hWord
  rw [Clause.read]
  dsimp only
  rcases hWord with ⟨rfl, rfl⟩ | ⟨rfl, rfl⟩ | ⟨rfl, rfl⟩
  · rw [(by decide : Text.upper "WHERE" = "WHERE")]
    exact bind_eq_ok_iff.mpr ⟨p, hRead, rfl⟩
  · rw [(by decide : Text.upper "HAVING" = "HAVING")]
    exact bind_eq_ok_iff.mpr ⟨p, hRead, rfl⟩
  · rw [(by decide : Text.upper "LIMIT" = "LIMIT")]
    exact bind_eq_ok_iff.mpr ⟨p, hRead, rfl⟩

theorem isReserved_conditionWord (hWord : (word, operation) ∈ conditionWords) :
    isReserved word = true := by
  have hName : word ∈ conditionWords.map Prod.fst := List.mem_map.mpr ⟨_, hWord, rfl⟩
  exact (by decide : ∀ word ∈ conditionWords.map Prod.fst, isReserved word = true) word hName

/-- A written expression behind such a word is a clause. -/
theorem isClauseText_write {e : Expr} (hWritable : Expr.Writable e) (now : Date)
    (hWord : (word, operation) ∈ conditionWords) :
    IsClauseText now (word ++ " " ++ e.write) (.operation (operation e)) := by
  have hReserved := isReserved_conditionWord hWord
  refine ⟨⟨word, e.write, hReserved, rfl⟩, ?_⟩
  obtain ⟨ts, stop, hRun, hTokens⟩ := Scan.run_written now hWritable.readsBack (5 + word.toList.length + 1)
  obtain ⟨within, hRead⟩ := hWritable.read_finish hTokens stop
  have hChars : ("TASK " ++ (word ++ " " ++ e.write)).toList =
      'T' :: 'A' :: 'S' :: 'K' :: ' ' :: (word.toList ++ ' ' :: e.write.toList) := by
    simp
  have hScan : Scan.ofText now ("TASK " ++ (word ++ " " ++ e.write)) =
      ⟨⟨.identifier "TASK", 0, 4⟩ :: ⟨.identifier word, 5, 5 + word.toList.length⟩ ::
        (ts ++ [⟨.finish, stop, stop⟩]), none⟩ := by
    rw [Scan.ofText, hChars, Scan.run_task, Scan.run_reserved hReserved, Expr.toList_write, hRun]
    rfl
  refine partsOfText_eq_ok_iff.mpr ⟨_, _, hScan, Header.read_task .., rfl, ?_⟩
  exact Clause.readAll_eq_cons_iff.mpr ⟨_, read_conditionWord hWord hRead .., rfl,
    Clause.readAll_eq_nil_iff.mpr rfl⟩

end

/-- A tag behind `FROM` is a clause. -/
theorem isClauseText_tag {name : String} (hSome : name.toList ≠ [])
    (hParts : ∀ c ∈ name.toList, isTagPart c = true) (now : Date) :
    IsClauseText now ("FROM" ++ " " ++ ("#" ++ name)) (.source (.tag ("#" ++ name))) := by
  have hReserved : isReserved "FROM" = true := by decide
  refine ⟨⟨"FROM", "#" ++ name, hReserved, rfl⟩, ?_⟩
  have hChars : ("TASK " ++ ("FROM" ++ " " ++ ("#" ++ name))).toList =
      'T' :: 'A' :: 'S' :: 'K' :: ' ' :: ("FROM".toList ++ ' ' :: '#' :: name.toList) := by
    simp
  have hFront : readFront now ('#' :: name.toList ++ []) =
      .ok (.tag ("#" ++ name), name.toList.length + 1) := by
    have hTake : name.toList.takeWhile isTagPart = name.toList := List.takeWhile_eq_self_iff.mpr hParts
    have hTag : String.ofList ('#' :: name.toList) = "#" ++ name := by
      rw [← String.toList_inj]
      simp
    rw [List.append_nil, readFront, readTag, hTake, hTag]
    exact if_neg (by simpa using hSome)
  have hRun := Scan.run_token rfl hFront 10
  rw [List.append_nil] at hRun
  have hScan : Scan.ofText now ("TASK " ++ ("FROM" ++ " " ++ ("#" ++ name))) =
      ⟨[⟨.identifier "TASK", 0, 4⟩, ⟨.identifier "FROM", 5, 9⟩,
        ⟨.tag ("#" ++ name), 10, 10 + (name.toList.length + 1)⟩,
        ⟨.finish, 10 + (name.toList.length + 1), 10 + (name.toList.length + 1)⟩], none⟩ := by
    rw [Scan.ofText, hChars, Scan.run_task, Scan.run_reserved hReserved]
    exact congrArg (Scan.cons _ <| Scan.cons _ ·) hRun
  have hRead (text : List Char) (start stop : Nat) (ts : List Lexeme)
      (hStop : Source.join? (current ts) = none) : Clause.read text
        (⟨.identifier "FROM", 5, 9⟩ :: ⟨.tag ("#" ++ name), start, stop⟩ :: ts) =
          .ok ⟨.source (.tag ("#" ++ name)), ts, by simp only [List.length_cons]; omega⟩ := by
    rw [Clause.read]
    dsimp only
    rw [(by decide : Text.upper "FROM" = "FROM")]
    exact bind_eq_ok_iff.mpr ⟨_, Source.read_tag hStop, rfl⟩
  refine partsOfText_eq_ok_iff.mpr ⟨_, _, hScan, Header.read_task .., rfl, ?_⟩
  exact Clause.readAll_eq_cons_iff.mpr ⟨_, hRead _ _ _ _ rfl, rfl,
    Clause.readAll_eq_nil_iff.mpr rfl⟩

/-- Clause texts behind a header are read as the header and the clauses taken together. -/
theorem ofText_join {now : Date} {header : String} {h : Header}
    (hHeader : ofText now header = .ok ⟨h, .everything, []⟩) {texts : List String} {clauses : List Clause}
    (hClauses : List.Forall₂ (IsClauseText now) texts clauses) :
    ofText now (" ".intercalate (header :: texts)) = .ok (ofClauses h clauses) :=
  ofText_eq_ok_iff.mpr ⟨h, clauses, partsOfText_join (partsOfText_of_ofText hHeader) hClauses, rfl⟩

/-- Sources between conditions keep them together, and a limit parts them. -/
theorem ofText_join_interleaved :
    ofText ⟨0, 0, 0⟩ "LIST" = .ok ⟨.list none true, .everything, []⟩ ∧
    List.Forall₂ (IsClauseText ⟨0, 0, 0⟩)
      ["WHERE a", "FROM #x", "WHERE b", "LIMIT a", "FROM #y", "WHERE b"]
      [.operation (.filter (.name "a")), .source (.tag "#x"), .operation (.filter (.name "b")),
        .operation (.limit (.name "a")), .source (.tag "#y"), .operation (.filter (.name "b"))] ∧
    ofText ⟨0, 0, 0⟩ "LIST WHERE a FROM #x WHERE b LIMIT a FROM #y WHERE b" =
      .ok ⟨.list none true, .or (.tag "#x") (.tag "#y"),
        [.filter (.binary .and (.name "a") (.name "b")), .limit (.name "a"), .filter (.name "b")]⟩ := by
  have hScan : Scan.ofText ⟨0, 0, 0⟩ "LIST" = ⟨[⟨.identifier "LIST", 0, 4⟩, ⟨.finish, 4, 4⟩], none⟩ := by
    rw [Scan.ofText, (rfl : "LIST".toList = ['L', 'I', 'S', 'T'])]
    cbv
  have hRead : Header.read "LIST".toList [⟨.identifier "LIST", 0, 4⟩, ⟨.finish, 4, 4⟩] =
      .ok ⟨.list none true, [⟨.finish, 4, 4⟩], by simp⟩ := by
    rw [Header.read]
    dsimp only
    rw [(by decide +kernel : Text.upper "LIST" = "LIST")]
    rfl
  have hHeader : ofText ⟨0, 0, 0⟩ "LIST" = .ok ⟨.list none true, .everything, []⟩ :=
    ofText_eq_ok_iff.mpr ⟨_, [], partsOfText_eq_ok_iff.mpr
      ⟨_, _, hScan, hRead, rfl, Clause.readAll_eq_nil_iff.mpr rfl⟩, rfl⟩
  have hA : Expr.IsFreeName "a" :=
    ⟨⟨'a', [], by simp, by decide⟩, by simp; decide, by decide +kernel, by decide +kernel⟩
  have hB : Expr.IsFreeName "b" :=
    ⟨⟨'b', [], by simp, by decide⟩, by simp; decide, by decide +kernel, by decide +kernel⟩
  have hFrom {name : String} (hSome : name.toList ≠ []) (hParts : ∀ c ∈ name.toList, isTagPart c = true) :
      IsClauseText ⟨0, 0, 0⟩ ("FROM" ++ " " ++ ("#" ++ name)) (.source (.tag ("#" ++ name))) :=
    isClauseText_tag hSome hParts _
  have hWhere {name : String} (hFree : Expr.IsFreeName name) :
      IsClauseText ⟨0, 0, 0⟩ ("WHERE" ++ " " ++ name) (.operation (.filter (.name name))) :=
    isClauseText_write (.name hFree) _ (List.mem_cons_self ..)
  have hLimit {name : String} (hFree : Expr.IsFreeName name) :
      IsClauseText ⟨0, 0, 0⟩ ("LIMIT" ++ " " ++ name) (.operation (.limit (.name name))) :=
    isClauseText_write (.name hFree) _ (by simp [conditionWords])
  have hX := hFrom (by simp : "x".toList ≠ []) (by simp; decide)
  have hY := hFrom (by simp : "y".toList ≠ []) (by simp; decide)
  have hClauses : List.Forall₂ (IsClauseText ⟨0, 0, 0⟩) _ _ :=
    .cons (hWhere hA) (.cons hX (.cons (hWhere hB)
      (.cons (hLimit hA) (.cons hY (.cons (hWhere hB) .nil)))))
  have hText : " ".intercalate ["LIST", "WHERE a", "FROM #x", "WHERE b", "LIMIT a", "FROM #y", "WHERE b"] =
      "LIST WHERE a FROM #x WHERE b LIMIT a FROM #y WHERE b" := by decide +kernel
  have hQuery := ofText_join hHeader hClauses
  exact ⟨hHeader, hClauses, hText ▸ hQuery⟩

end Query

end DocQuery
