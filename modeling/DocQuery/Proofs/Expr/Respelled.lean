import DocQuery.Proofs.Expr.Grammar
import DocQuery.Proofs.Keyed
import DocQuery.Proofs.Text.AsciiCase

/-!
Reading with the names of calls in another case. The same tokens are taken by the same readers, and what is
read differs in the names of functions only, or in what is called and cannot be.
-/

namespace DocQuery

open Lexeme Text

namespace Lexeme

/-- The same tokens with the names of some calls in another case. -/
inductive Respelled : List Lexeme → List Lexeme → Prop where
  | nil : Respelled [] []
  | same (t : Lexeme) {ts ts' : List Lexeme} (others : Respelled ts ts') : Respelled (t :: ts) (t :: ts')
  | call {name other : String} {start stop : Nat} {ts ts' : List Lexeme}
      (letters : sameUpToAsciiCase name other = true)
      (call : isCall (⟨.identifier name, start, stop⟩ :: ts) = true) (others : Respelled ts ts') :
      Respelled (⟨.identifier name, start, stop⟩ :: ts) (⟨.identifier other, start, stop⟩ :: ts')

variable {t : Lexeme} {ts ts' more : List Lexeme}

theorem Respelled.refl (ts : List Lexeme) : Respelled ts ts := by
  induction ts with
  | nil => exact .nil
  | cons t ts ih => exact .same t ih

theorem Respelled.append (h : Respelled ts ts') (us : List Lexeme) : Respelled (us ++ ts) (us ++ ts') := by
  induction us with
  | nil => exact h
  | cons u us ih => exact .same u ih

theorem current_of_isCall (h : isCall (t :: more) = true) : current more = .symbol .openParen := by
  cases more with
  | nil => cases h
  | cons u more =>
      simp only [isCall, Bool.and_eq_true, beq_iff_eq] at h
      exact h.1.2

/-- Only in front of an opening parenthesis a token changes. -/
theorem Respelled.exists_of_apart (h : Respelled (t :: more) ts') (hApart : current more ≠ .symbol .openParen) :
    ∃ more', ts' = t :: more' ∧ Respelled more more' := by
  cases h with
  | same _ others => exact ⟨_, rfl, others⟩
  | call letters call others => exact absurd (current_of_isCall call) hApart

/-- A token that is no name is left as it is. -/
theorem Respelled.exists_of_some {α : Type} {kind : Token → Option α} {a : α}
    (h : Respelled (t :: more) ts') (hKind : kind t.token = some a)
    (hName : ∀ name, kind (.identifier name) = none) : ∃ more', ts' = t :: more' ∧ Respelled more more' := by
  cases h with
  | same _ others => exact ⟨_, rfl, others⟩
  | call => cases (hName _).symm.trans hKind

theorem Respelled.exists_of_symbol {s : Symbol} (h : Respelled (t :: more) ts')
    (hToken : t.token = .symbol s) : ∃ more', ts' = t :: more' ∧ Respelled more more' := by
  cases h with
  | same _ others => exact ⟨_, rfl, others⟩
  | call => cases hToken

/-- A name is left as it is, unless it is called. -/
theorem Respelled.exists_of_name {name : String} (h : Respelled (t :: more) ts')
    (hToken : t.token = .identifier name) :
    ∃ t' other more', ts' = t' :: more' ∧ t'.token = .identifier other ∧ Respelled more more' ∧
      sameUpToAsciiCase name other = true ∧ (current more ≠ .symbol .openParen → other = name) := by
  cases h with
  | same _ others =>
      exact ⟨t, name, _, rfl, hToken, others, sameUpToAsciiCase_iff.mpr rfl, fun _ => rfl⟩
  | call letters call others =>
      cases hToken
      exact ⟨_, _, _, rfl, rfl, others, letters, fun hNot => absurd (current_of_isCall call) hNot⟩

/-- What is said of the next token, whatever names it may be, is said of its other spelling. -/
theorem Respelled.current (h : Respelled ts ts') {P : Token → Prop} (hName : ∀ name, P (.identifier name))
    (hCurrent : P (current ts)) : P (current ts') := by
  cases h with
  | nil => exact hCurrent
  | same => exact hCurrent
  | call => exact hName _

/-- The end of the text stays where it is. -/
theorem Respelled.current_eq_finish (h : Respelled ts ts') (hCurrent : Lexeme.current ts = .finish) :
    Lexeme.current ts' = .finish := by
  cases h with
  | nil => rfl
  | same => exact hCurrent
  | call => cases hCurrent

/-- In another spelling a name is called where it was called before. -/
theorem Respelled.isCall_eq (h : Respelled ts ts') : isCall ts' = isCall ts := by
  have hName (name : String) : (Token.identifier name == .symbol .openParen) = false := rfl
  cases h with
  | nil => rfl
  | same t others => cases others <;> simp [isCall, hName]
  | call letters call others => cases others <;> simp [isCall, hName]

end Lexeme

namespace Expr

mutual

/-- An expression with the names of the functions it calls in small letters. A call of anything but a name
fails, whatever is called, and is replaced by one such call. -/
def foldCalls : Expr → Expr
  | literal v => literal v
  | .name n => .name n
  | .not operand => .not operand.foldCalls
  | binary op left right => binary op left.foldCalls right.foldCalls
  | list items => list (foldItems items)
  | object entries => object (foldEntries entries)
  | .index container key => .index container.foldCalls key.foldCalls
  | call (.name n) args => call (.name (smallLetters n)) (foldItems args)
  | call _ _ => call (literal .null) []

def foldItems : List Expr → List Expr
  | [] => []
  | item :: rest => item.foldCalls :: foldItems rest

def foldEntries : List (String × Expr) → List (String × Expr)
  | [] => []
  | (key, item) :: rest => (key, item.foldCalls) :: foldEntries rest

end

/-- The name that an expression calls, in small letters, if it is a name. -/
def calledName? : Expr → Option String
  | .name n => some (smallLetters n)
  | _ => none

theorem calledName?_foldCalls (e : Expr) : e.foldCalls.calledName? = e.calledName? := by
  cases e with
  | call callee args => cases callee <;> rfl
  | _ => rfl

theorem foldCalls_negate_congr {e e' : Expr} (h : e'.foldCalls = e.foldCalls) :
    e'.negate.foldCalls = e.negate.foldCalls := by
  have hNegate (e : Expr) : e.negate.foldCalls = e.foldCalls.negate := by
    cases e with
    | literal v => cases v <;> rfl
    | call callee args => cases callee <;> rfl
    | _ => rfl
  rw [hNegate, hNegate, h]

theorem foldEntries_eq_map (entries : List (String × Expr)) :
    foldEntries entries = entries.map fun entry => (entry.1, entry.2.foldCalls) := by
  induction entries with
  | nil => rfl
  | cons entry rest ih => rw [foldEntries, ih, List.map_cons]

/-- An operand in place of another one: where it is called, only the name it calls counts. -/
structure StandsFor (base base' : Expr) (behind : List Lexeme) : Prop where
  called : base'.calledName? = base.calledName?
  same : current behind ≠ .symbol .openParen → base'.foldCalls = base.foldCalls

theorem standsFor_of_eq {base base' : Expr} (h : base'.foldCalls = base.foldCalls) (behind : List Lexeme) :
    StandsFor base base' behind := by
  refine ⟨?_, fun _ => h⟩
  rw [← calledName?_foldCalls, h, calledName?_foldCalls]

section StandsFor

variable {base base' inner inner' : Expr} {word word' : String} {items items' : List Expr}
  {entries entries' : List (String × Expr)} {behind : List Lexeme}

/-- The name of a field may be spelled in another way only where it is called. -/
theorem standsFor_property (hBase : base'.foldCalls = base.foldCalls)
    (hWord : current behind ≠ .symbol .openParen → word' = word) :
    StandsFor (property base word) (property base' word') behind := by
  refine ⟨rfl, fun hApart => ?_⟩
  rw [hWord hApart]
  exact congrArg (index · _) hBase

theorem standsFor_index (hBase : base'.foldCalls = base.foldCalls) (hInner : inner'.foldCalls = inner.foldCalls)
    (behind : List Lexeme) : StandsFor (index base inner) (index base' inner') behind := by
  apply standsFor_of_eq
  exact congrArg₂ index hBase hInner

/-- Calls by one name with the same arguments stand for each other. -/
theorem standsFor_call (hCalled : base'.calledName? = base.calledName?)
    (hItems : foldItems items' = foldItems items) (behind : List Lexeme) :
    StandsFor (call base items) (call base' items') behind := by
  have hCall (base : Expr) (items : List Expr) : (call base items).foldCalls =
      base.calledName?.elim (call (literal .null) []) fun n => call (.name n) (foldItems items) := by
    cases base <;> rfl
  apply standsFor_of_eq
  rw [hCall, hCall, hCalled, hItems]

theorem standsFor_list (hItems : foldItems items' = foldItems items) (behind : List Lexeme) :
    StandsFor (list items) (list items') behind := by
  apply standsFor_of_eq
  exact congrArg list hItems

theorem standsFor_object (hEntries : foldEntries entries' = foldEntries entries) (behind : List Lexeme) :
    StandsFor (object (Keyed.ofList entries)) (object (Keyed.ofList entries')) behind := by
  have hMap (entries : List (String × Expr)) :
      foldEntries (Keyed.ofList entries) = Keyed.ofList (foldEntries entries) := by
    rw [foldEntries_eq_map, foldEntries_eq_map, Keyed.map_ofList]
  apply standsFor_of_eq
  rw [foldCalls, foldCalls, hMap, hMap, hEntries]

end StandsFor

/-- What a part is read as, up to the names of calls. -/
def Phrase.fold : (phrase : Phrase) → phrase.Result → phrase.Result
  | items _ => foldItems
  | entries => foldEntries
  | level _ | chain .. | unary | operand | suffixes _ | primary => foldCalls

/-- A part is read from other tokens as the same, up to the names of calls. -/
def Phrase.ReadsAgain (phrase : Phrase) (ts' : List Lexeme) (v : phrase.Result) (rest : List Lexeme) : Prop :=
  ∃ v' rest', Reads phrase ts' v' rest' ∧ phrase.fold v' = phrase.fold v ∧ Respelled rest rest'

/-- A part is read from other tokens as the same, up to the names of calls and behind a left operand or a base
that is the same up to them. -/
def Phrase.Follows (ts ts' : List Lexeme) : (phrase : Phrase) → phrase.Result → List Lexeme → Prop
  | chain below left, e, rest => ∀ left' : Expr, left'.foldCalls = left.foldCalls →
    ReadsAgain (.chain below left') ts' e rest
  | suffixes base, e, rest => ∀ base', StandsFor base base' ts → ReadsAgain (.suffixes base') ts' e rest
  | primary, e, rest => ∃ e' rest', Reads .primary ts' e' rest' ∧ StandsFor e e' rest ∧ Respelled rest rest'
  | level n, e, rest => ReadsAgain (.level n) ts' e rest
  | unary, e, rest => ReadsAgain .unary ts' e rest
  | operand, e, rest => ReadsAgain .operand ts' e rest
  | items closing, v, rest => ReadsAgain (.items closing) ts' v rest
  | entries, v, rest => ReadsAgain .entries ts' v rest

/-- In another spelling a part is read as the same part up to the names of calls. The induction is over the
rules of reading, one case for each. -/
theorem Reads.follows {phrase : Phrase} {ts ts' rest : List Lexeme} {v : phrase.Result}
    (h : Reads phrase ts v rest) (hSame : Respelled ts ts') : phrase.Follows ts ts' v rest := by
  -- The induction is on the reading. Between an operand and what is called on it the tokens of the second
  -- text may differ, so that there the name that is called is all that is known of the operand.
  induction h generalizing ts' with
  | levelZero unary ih =>
      obtain ⟨e', rest', hUnary, hFold, hRest⟩ := ih hSame
      exact ⟨e', rest', .levelZero hUnary, hFold, hRest⟩
  | levelSucc first others ihFirst ihOthers =>
      obtain ⟨left', middle', hFirst, hLeft, hMiddle⟩ := ihFirst hSame
      obtain ⟨e', rest', hOthers, hFold, hRest⟩ := ihOthers hMiddle left' hLeft
      exact ⟨e', rest', .levelSucc hFirst hOthers, hFold, hRest⟩
  | @chainEnd below left ts stop =>
      intro left' hLeft
      have hStop := hSame.current (P := (opOfLevel? (below + 1) · = none)) (fun _ => rfl) stop
      exact ⟨left', ts', .chainEnd hStop, hLeft, hSame⟩
  | chainMore operator operand others ihOperand ihOthers =>
      intro left' hLeft
      obtain ⟨more', rfl, hMore⟩ := hSame.exists_of_some operator fun _ => rfl
      obtain ⟨right', middle', hOperand, hRight, hMiddle⟩ := ihOperand hMore
      obtain ⟨e', rest', hOthers, hFold, hRest⟩ :=
        ihOthers hMiddle (binary _ left' right') (congrArg₂ (binary _) hLeft hRight)
      exact ⟨e', rest', .chainMore operator hOperand hOthers, hFold, hRest⟩
  | unaryNot sign operand ih =>
      obtain ⟨more', rfl, hMore⟩ := hSame.exists_of_symbol sign
      obtain ⟨e', rest', hOperand, hFold, hRest⟩ := ih hMore
      exact ⟨not e', rest', .unaryNot sign hOperand, congrArg not hFold, hRest⟩
  | unaryMinus sign operand ih =>
      obtain ⟨more', rfl, hMore⟩ := hSame.exists_of_symbol sign
      obtain ⟨e', rest', hOperand, hFold, hRest⟩ := ih hMore
      exact ⟨negate e', rest', .unaryMinus sign hOperand, foldCalls_negate_congr hFold, hRest⟩
  | unaryNone notBang notMinus operand ih =>
      obtain ⟨e', rest', hOperand, hFold, hRest⟩ := ih hSame
      have hBang := hSame.current (P := (· ≠ .symbol .bang)) nofun notBang
      have hMinus := hSame.current (P := (· ≠ .symbol .minus)) nofun notMinus
      exact ⟨e', rest', .unaryNone hBang hMinus hOperand, hFold, hRest⟩
  | operand first others ihFirst ihOthers =>
      obtain ⟨base', middle', hFirst, hStands, hMiddle⟩ := ihFirst hSame
      obtain ⟨e', rest', hOthers, hFold, hRest⟩ := ihOthers hMiddle base' hStands
      exact ⟨e', rest', .operand hFirst hOthers, hFold, hRest⟩
  | suffixEnd stop =>
      intro base' hStands
      have hStop := hSame.current (P := (isSuffix · = false)) (fun _ => rfl) stop
      exact ⟨base', ts', .suffixEnd hStop, hStands.same (fun hOpen => by simp [isSuffix, hOpen] at stop), hSame⟩
  | suffixField dot field others ih =>
      intro base' hStands
      obtain ⟨more', rfl, hMore⟩ := hSame.exists_of_symbol dot
      obtain ⟨u', word', more', rfl, hField, hMore, -, hWord⟩ := hMore.exists_of_name field
      have hBase := hStands.same (by simp [current, dot])
      obtain ⟨e', rest', hOthers, hFold, hRest⟩ := ih hMore _ (standsFor_property hBase hWord)
      exact ⟨e', rest', .suffixField dot hField hOthers, hFold, hRest⟩
  | suffixIndex opening inside closing others ihInside ihOthers =>
      intro base' hStands
      obtain ⟨more', rfl, hMore⟩ := hSame.exists_of_symbol opening
      obtain ⟨inner', close', hInside, hInner, hClose⟩ := ihInside hMore
      obtain ⟨middle', rfl, hMiddle⟩ := hClose.exists_of_symbol closing
      have hBase := hStands.same (by simp [current, opening])
      obtain ⟨e', rest', hOthers, hFold, hRest⟩ := ihOthers hMiddle _ (standsFor_index hBase hInner _)
      exact ⟨e', rest', .suffixIndex opening hInside closing hOthers, hFold, hRest⟩
  | suffixCall opening inside others ihInside ihOthers =>
      intro base' hStands
      obtain ⟨more', rfl, hMore⟩ := hSame.exists_of_symbol opening
      obtain ⟨args', middle', hInside, hArgs, hMiddle⟩ := ihInside hMore
      obtain ⟨e', rest', hOthers, hFold, hRest⟩ := ihOthers hMiddle _ (standsFor_call hStands.called hArgs _)
      exact ⟨e', rest', .suffixCall opening hInside hOthers, hFold, hRest⟩
  | literal value =>
      obtain ⟨rest', rfl, hRest⟩ := hSame.exists_of_some value fun _ => rfl
      exact ⟨_, rest', .literal value, standsFor_of_eq rfl _, hRest⟩
  | name identifier free =>
      have hCall := hSame.isCall_eq
      obtain ⟨t', word', rest', rfl, hName, hRest, hLetters, hWord⟩ := hSame.exists_of_name identifier
      have hFree : isReserved word' = true → isCall (t' :: rest') = true := by
        rw [← isReserved_congr hLetters, hCall]
        exact free
      have hCalled : (Expr.name word').calledName? = (Expr.name _).calledName? :=
        congrArg some (smallLetters_eq_iff.mpr hLetters).symm
      exact ⟨.name word', rest', .name hName hFree, ⟨hCalled, fun hApart => by rw [hWord hApart]⟩, hRest⟩
  | parens opening inside closing ih =>
      obtain ⟨more', rfl, hMore⟩ := hSame.exists_of_symbol opening
      obtain ⟨e', close', hInside, hFold, hClose⟩ := ih hMore
      obtain ⟨rest', rfl, hRest⟩ := hClose.exists_of_symbol closing
      exact ⟨e', rest', .parens opening hInside closing, standsFor_of_eq hFold _, hRest⟩
  | list opening inside ih =>
      obtain ⟨more', rfl, hMore⟩ := hSame.exists_of_symbol opening
      obtain ⟨items', rest', hInside, hFold, hRest⟩ := ih hMore
      exact ⟨_, rest', .list opening hInside, standsFor_list hFold _, hRest⟩
  | object opening inside ih =>
      obtain ⟨more', rfl, hMore⟩ := hSame.exists_of_symbol opening
      obtain ⟨entries', rest', hInside, hFold, hRest⟩ := ih hMore
      exact ⟨_, rest', .object opening hInside, standsFor_object hFold _, hRest⟩
  | itemsEnd stop =>
      obtain ⟨rest', rfl, hRest⟩ := hSame.exists_of_symbol stop
      exact ⟨[], rest', .itemsEnd stop, rfl, hRest⟩
  | @itemsLast closing ts t rest item notClosed first stop ih =>
      have hOpen := hSame.current (P := (· ≠ .symbol closing)) nofun notClosed
      obtain ⟨item', close', hFirst, hFold, hClose⟩ := ih hSame
      obtain ⟨rest', rfl, hRest⟩ := hClose.exists_of_symbol stop
      exact ⟨[item'], rest', .itemsLast hOpen hFirst stop, congrArg (· :: []) hFold, hRest⟩
  | @itemsMore closing ts t middle rest item others notClosed first comma apart go ihFirst ihGo =>
      have hOpen := hSame.current (P := (· ≠ .symbol closing)) nofun notClosed
      obtain ⟨item', behind', hFirst, hItem, hBehind⟩ := ihFirst hSame
      obtain ⟨middle', rfl, hMiddle⟩ := hBehind.exists_of_symbol comma
      obtain ⟨others', rest', hGo, hOthers, hRest⟩ := ihGo hMiddle
      exact ⟨item' :: others', rest', .itemsMore hOpen hFirst comma apart hGo,
        congrArg₂ List.cons hItem hOthers, hRest⟩
  | entriesEnd stop =>
      obtain ⟨rest', rfl, hRest⟩ := hSame.exists_of_symbol stop
      exact ⟨[], rest', .entriesEnd stop, rfl, hRest⟩
  | entriesLast label colon first stop ih =>
      obtain ⟨_, rfl, hColon⟩ := hSame.exists_of_apart (by simp [current, colon])
      obtain ⟨more', rfl, hMore⟩ := hColon.exists_of_symbol colon
      obtain ⟨value', close', hFirst, hFold, hClose⟩ := ih hMore
      obtain ⟨rest', rfl, hRest⟩ := hClose.exists_of_symbol stop
      exact ⟨_, rest', .entriesLast label colon hFirst stop, congrArg (fun e => [(_, e)]) hFold, hRest⟩
  | entriesMore label colon first comma go ihFirst ihGo =>
      obtain ⟨_, rfl, hColon⟩ := hSame.exists_of_apart (by simp [current, colon])
      obtain ⟨more', rfl, hMore⟩ := hColon.exists_of_symbol colon
      obtain ⟨value', behind', hFirst, hFold, hBehind⟩ := ihFirst hMore
      obtain ⟨middle', rfl, hMiddle⟩ := hBehind.exists_of_symbol comma
      obtain ⟨others', rest', hGo, hOthers, hRest⟩ := ihGo hMiddle
      exact ⟨_, rest', .entriesMore label colon hFirst comma hGo,
        congrArg₂ (fun e es => (_, e) :: es) hFold hOthers, hRest⟩

/-- A whole text is read again as the same expression, up to the names of calls. -/
theorem readAll_respelled {ts ts' : List Lexeme} {e : Expr} (hSame : Respelled ts ts')
    (hRead : readAll ts = .ok e) : ∃ e', readAll ts' = .ok e' ∧ e'.foldCalls = e.foldCalls := by
  obtain ⟨⟨e, rest, within⟩, hLevel, hEnd⟩ := bind_eq_ok_iff.mp hRead
  have hFinish : current rest = .finish := by
    by_contra hMore
    rw [if_neg hMore] at hEnd
    cases hEnd
  rw [if_pos hFinish] at hEnd
  cases hEnd
  obtain ⟨e', rest', hReads, hFold, hRest⟩ := (reads_of_readLevel hLevel).follows hSame
  have hFinish' : current rest' = .finish := hRest.current_eq_finish hFinish
  obtain ⟨within', hAnswer⟩ := hReads.answers
  exact ⟨e', bind_eq_ok_iff.mpr ⟨_, hAnswer, if_pos hFinish'⟩, hFold⟩

end Expr
end DocQuery
