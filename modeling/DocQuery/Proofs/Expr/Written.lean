import DocQuery.Proofs.Expr.Grammar
import DocQuery.Proofs.Keyed

/-!
Expressions as text: tokens with one space between them, and parentheses only around a part that binds
more loosely than its place allows. The tokens of a written expression stand in front of anything that
does not go on with them, and are read there as the expression they were written for.
-/

namespace DocQuery

/-- Whether a minus stands in front of a number. -/
def Number.hasMinus : Number → Bool
  | .nan => false
  | .infinity negative | .finite negative .. => negative

def Op.sign : Op → Symbol
  | equal => .equal
  | notEqual => .notEqual
  | less => .less
  | greater => .greater
  | atMost => .atMost
  | atLeast => .atLeast
  | add => .plus
  | subtract => .minus
  | multiply => .star
  | divide => .slash
  | modulo => .percent
  | and => .and
  | or => .or

theorem Op.level_pos (op : Op) : 0 < op.level := by
  cases op <;> decide

theorem Op.level_le (op : Op) : op.level ≤ Op.maxLevel := by
  cases op <;> decide

theorem Op.op?_sign (op : Op) : op.sign.op? = some op := by
  cases op <;> rfl

namespace Token

def writtenChar (c : Char) : List Char := if c = '"' ∨ c = '\\' then ['\\', c] else [c]

def writtenString (s : String) : String :=
  String.ofList ('"' :: s.toList.flatMap writtenChar ++ ['"'])

/-- The text of a token. Operators are written by their signs; links, tags, dates and spans do not
occur in written expressions. -/
def written : Token → String
  | number n => n.text
  | string s => writtenString s
  | boolean b => if b then "true" else "false"
  | null => "null"
  | identifier word => word
  | symbol s => (s.op?.map Op.symbol).getD s.text
  | link _ | tag _ | date _ | duration _ | finish => ""

end Token

namespace Expr

open Lexeme

/-- How loosely the text of an expression binds: what is in brackets of its own or a single token binds
tightest, then come expressions with a sign in front, then operators by their level. -/
def looseness : Expr → Nat
  | literal (.number n) => if n.hasMinus then 1 else 0
  | not _ => 1
  | binary op _ _ => op.level + 1
  | literal _ | name _ | call .. | index .. | list _ | object _ => 0

/-- The tokens of a part in a place that allows a looseness. -/
def enclosed (allowed actual : Nat) (tokens : List Token) : List Token :=
  if actual ≤ allowed then tokens
  else .symbol .openParen :: (tokens ++ [.symbol .closeParen])

/-- The tokens of a literal; a minus in front of a number is a token of its own. -/
def literalTokens : Value → List Token
  | .number n => if n.hasMinus then [.symbol .minus, .number n.abs] else [.number n]
  | .string s => [.string s]
  | .boolean b => [.boolean b]
  | .null => [.null]
  | _ => []

mutual

/-- The tokens of an expression. Operators associate to the left, so that only a left operand may be as
loose as its operator. -/
def tokens : Expr → List Token
  | literal v => literalTokens v
  | name word => [.identifier word]
  | binary op left right =>
    enclosed (op.level + 1) left.looseness (tokens left) ++
      .symbol op.sign :: enclosed op.level right.looseness (tokens right)
  | call callee args =>
    tokens callee ++ .symbol .openParen :: (itemTokens args ++ [.symbol .closeParen])
  | index container inner =>
    enclosed 0 container.looseness (tokens container) ++
      .symbol .openBracket :: (tokens inner ++ [.symbol .closeBracket])
  | not operand => .symbol .bang :: enclosed 1 operand.looseness (tokens operand)
  | list items => .symbol .openBracket :: (itemTokens items ++ [.symbol .closeBracket])
  | object entries => .symbol .openBrace :: (entryTokens entries ++ [.symbol .closeBrace])

/-- The tokens of expressions with commas between them. -/
def itemTokens : List Expr → List Token
  | [] => []
  | [item] => tokens item
  | item :: next :: rest => tokens item ++ .symbol .comma :: itemTokens (next :: rest)

/-- The tokens of entries with commas between them; keys are written as strings. -/
def entryTokens : List (String × Expr) → List Token
  | [] => []
  | [(key, value)] => .string key :: .symbol .colon :: tokens value
  | (key, value) :: next :: rest =>
    .string key :: .symbol .colon :: tokens value ++ .symbol .comma :: entryTokens (next :: rest)

end

def write (e : Expr) : String := " ".intercalate (e.tokens.map Token.written)

/-- A word that is a name wherever it stands: it is shaped like one, begins no clause, and is no
operator or constant. -/
structure IsFreeName (word : String) : Prop where
  begins : ∃ c cs, word.toList = c :: cs ∧ Token.isNameStart c = true
  goesOn : ∀ c ∈ word.toList, Token.isNamePart c = true
  unreserved : isReserved word = false
  ordinary : Text.lower word ∉ ["and", "or", "true", "false", "null"]

/-- Expressions that can be written: literals are finite numbers, strings, booleans and null, only
variables are called, and the keys of an object are distinct. -/
inductive Writable : Expr → Prop where
  | number {n} (finite : n.isFinite = true) : Writable (literal (.number n))
  | string (s) : Writable (literal (.string s))
  | boolean (b) : Writable (literal (.boolean b))
  | null : Writable (literal .null)
  | name {word} (free : IsFreeName word) : Writable (name word)
  | binary (op) {left right} (onLeft : Writable left) (onRight : Writable right) :
      Writable (binary op left right)
  | call {word args} (free : IsFreeName word) (inside : ∀ arg ∈ args, Writable arg) :
      Writable (call (.name word) args)
  | index {container inner} (outside : Writable container) (inside : Writable inner) :
      Writable (index container inner)
  | not {operand} (inside : Writable operand) : Writable (not operand)
  | list {items} (inside : ∀ item ∈ items, Writable item) : Writable (list items)
  | object {entries : List (String × Expr)} (distinct : (entries.map Prod.fst).Nodup)
      (inside : ∀ entry ∈ entries, Writable entry.2) : Writable (object entries)

/-! Written expressions in front of other tokens. -/

/-- The tokens do not go on with an expression of the given level. -/
def Ends (level : Nat) (ts : List Lexeme) : Prop :=
  isSuffix (current ts) = false ∧ ∀ l ≤ level, opOfLevel? l (current ts) = none

/-- In a place of the given looseness the tokens stand for the expression: whatever the tokens behind
them make of the expression as a left part, they make of these tokens. -/
def Stands (e : Expr) (ts : List Lexeme) : Nat → Prop
  | 0 => ∀ ⦃rest whole left⦄, Reads (.suffixes e) rest whole left →
      Reads .operand (ts ++ rest) whole left
  | 1 => ∀ ⦃rest⦄, isSuffix (current rest) = false → Reads .unary (ts ++ rest) e rest
  | below + 2 => ∀ ⦃rest whole left⦄, Ends below rest → Reads (.chain below e) rest whole left →
      Reads (.level (below + 1)) (ts ++ rest) whole left

/-- What may stand in a place may stand in every looser one. -/
theorem Stands.mono {e : Expr} {ts : List Lexeme} {allowed looser : Nat} (hLe : allowed ≤ looser)
    (h : Stands e ts allowed) : Stands e ts looser := by
  induction hLe with
  | refl => exact h
  | @step place _ ih =>
      match place, ih with
      | 0, ih =>
          intro rest hStop
          have hOperand := ih (.suffixEnd hStop)
          have hBegin : opensOperand (current (ts ++ rest)) = true := hOperand.mayBegin
          refine .unaryNone ?_ ?_ hOperand <;> intro hSign <;> rw [hSign] at hBegin <;> cases hBegin
      | 1, ih =>
          intro rest whole left hEnds hChain
          exact .levelSucc (.levelZero (ih hEnds.1)) hChain
      | below + 2, ih =>
          intro rest whole left hEnds hChain
          have hWithin : Ends below rest :=
            ⟨hEnds.1, fun l hl => hEnds.2 l (Nat.le_succ_of_le hl)⟩
          exact .levelSucc (ih hWithin (.chainEnd (hEnds.2 _ (Nat.le_refl _)))) hChain

/-- What may stand in a place is read there when nothing goes on with it. -/
theorem Stands.reads {e : Expr} {ts : List Lexeme} {level : Nat} (h : Stands e ts (level + 1))
    {rest : List Lexeme} (hEnds : Ends level rest) : Reads (.level level) (ts ++ rest) e rest := by
  cases level with
  | zero => exact .levelZero (h hEnds.1)
  | succ below =>
      have hWithin : Ends below rest := ⟨hEnds.1, fun l hl => hEnds.2 l (Nat.le_succ_of_le hl)⟩
      exact h hWithin (.chainEnd (hEnds.2 _ (Nat.le_refl _)))

/-- What stands for an expression in front of the end of a text is read as the expression. -/
theorem Stands.read_eq {e : Expr} {ts rest : List Lexeme} {allowed : Nat} (h : Stands e ts allowed)
    (hAllowed : allowed ≤ Op.maxLevel + 1) (hEnd : current rest = .finish) :
    ∃ within, read (ts ++ rest) = .ok ⟨e, rest, within⟩ := by
  have hEnds : Ends Op.maxLevel rest := by
    rw [Ends, hEnd]
    exact ⟨rfl, fun _ _ => rfl⟩
  exact (Stands.reads (h.mono hAllowed) hEnds).answers

/-- An expression that stands in front of the end is all that is read. -/
theorem Stands.readAll_eq {e : Expr} {ts rest : List Lexeme} {allowed : Nat} (h : Stands e ts allowed)
    (hAllowed : allowed ≤ Op.maxLevel + 1) (hEnd : current rest = .finish) : readAll (ts ++ rest) = .ok e := by
  obtain ⟨within, hRead⟩ := h.read_eq hAllowed hEnd
  exact bind_eq_ok_iff.mpr ⟨_, hRead, if_pos hEnd⟩

/-- Nothing goes on behind a symbol that is no operator and begins no index, field or call. -/
theorem ends_of_symbol {level : Nat} {t : Lexeme} {rest : List Lexeme} {s : Symbol}
    (hToken : t.token = .symbol s) (hSuffix : isSuffix (.symbol s) = false) (hOp : s.op? = none) :
    Ends level (t :: rest) := by
  refine ⟨?_, fun l _ => ?_⟩
  · rw [current, hToken, hSuffix]
  · rw [current, hToken, opOfLevel?, hOp, Option.filter_none]

/-- No expression is looser than the loosest operator. -/
theorem looseness_le (e : Expr) : e.looseness ≤ Op.maxLevel + 1 := by
  cases e with
  | binary op _ _ => exact Nat.succ_le_succ op.level_le
  | not _ => exact Nat.succ_le_succ (Nat.zero_le _)
  | literal v =>
      cases v with
      | number n =>
          rw [looseness]
          split <;> decide
      | _ => exact Nat.zero_le _
  | _ => exact Nat.zero_le _

/-- The tokens of an expression that is not part of another stand for it. -/
def ReadsWhole (e : Expr) : Prop :=
  ∀ ⦃ts : List Lexeme⦄, ts.map Lexeme.token = e.tokens → Stands e ts e.looseness

/-- An expression that is read as a whole is read by the rules of the loosest level. -/
theorem ReadsWhole.reads {e : Expr} (h : ReadsWhole e) {ts rest : List Lexeme}
    (hTokens : ts.map Lexeme.token = e.tokens) (hEnds : Ends Op.maxLevel rest) :
    Reads (.level Op.maxLevel) (ts ++ rest) e rest :=
  Stands.reads (Stands.mono e.looseness_le (h hTokens)) hEnds

/-- Parentheses make a part as tight as a single token. -/
theorem ReadsWhole.enclosed {e : Expr} (h : ReadsWhole e) {allowed : Nat} {ts : List Lexeme}
    (hTokens : ts.map Lexeme.token = Expr.enclosed allowed e.looseness e.tokens) :
    Stands e ts allowed := by
  rw [Expr.enclosed] at hTokens
  split at hTokens
  · next hAllowed => exact Stands.mono hAllowed (h hTokens)
  · refine Stands.mono (Nat.zero_le _) ?_
    intro rest whole left hSuffixes
    obtain ⟨opening, _, rfl, hOpening, hMore⟩ := List.map_eq_cons_iff.mp hTokens
    obtain ⟨inner, _, rfl, hInner, hLast⟩ := List.map_eq_append_iff.mp hMore
    obtain ⟨closing, _, rfl, hClosing, hNil⟩ := List.map_eq_cons_iff.mp hLast
    cases List.map_eq_nil_iff.mp hNil
    rw [List.cons_append, List.append_assoc, List.singleton_append]
    exact .operand (.parens hOpening (h.reads hInner (ends_of_symbol hClosing rfl rfl)) hClosing)
      hSuffixes

/-- Expressions with commas between them are read up to the bracket that closes them. -/
theorem readsItems {items : List Expr} (hItems : ∀ item ∈ items, ReadsWhole item)
    {closing : Symbol} (hClose : closing = .closeParen ∨ closing = .closeBracket)
    {ts : List Lexeme} (hTokens : ts.map Lexeme.token = itemTokens items) {t : Lexeme}
    (hClosing : t.token = .symbol closing) (rest : List Lexeme) :
    Reads (.items closing) (ts ++ t :: rest) items rest := by
  have hEnds : Ends Op.maxLevel (t :: rest) := by
    rcases hClose with rfl | rfl <;> exact ends_of_symbol hClosing rfl rfl
  have hApart : Token.symbol .comma ≠ .symbol closing := by
    rcases hClose with rfl | rfl <;> decide
  -- No expression begins with the closing bracket, so a list with an item is not taken for an end.
  have hNotClosed {item : Expr} {before behind : List Lexeme}
      (hFirst : Reads (.level Op.maxLevel) before item behind) :
      current before ≠ .symbol closing := by
    intro hCurrent
    have hBegin := hFirst.mayBegin
    rw [hCurrent] at hBegin
    rcases hClose with rfl | rfl <;> cases hBegin
  induction items generalizing ts with
  | nil =>
      cases List.map_eq_nil_iff.mp hTokens
      exact .itemsEnd hClosing
  | cons item others ih =>
      obtain ⟨hItem, hOthers⟩ := List.forall_mem_cons.mp hItems
      cases others with
      | nil =>
          have hFirst := hItem.reads hTokens hEnds
          exact .itemsLast (hNotClosed hFirst) hFirst hClosing
      | cons next more =>
          obtain ⟨first, _, rfl, hFirstTokens, hMore⟩ := List.map_eq_append_iff.mp hTokens
          obtain ⟨comma, behind, rfl, hComma, hBehind⟩ := List.map_eq_cons_iff.mp hMore
          rw [List.append_assoc, List.cons_append]
          have hBehindFirst : Ends Op.maxLevel (comma :: (behind ++ t :: rest)) :=
            ends_of_symbol hComma rfl rfl
          have hFirst := hItem.reads hFirstTokens hBehindFirst
          exact .itemsMore (hNotClosed hFirst) hFirst hComma (hComma ▸ hApart)
            (ih hOthers hBehind)

/-- Entries with commas between them are read up to the closing brace. -/
theorem readsEntries {entries : List (String × Expr)}
    (hEntries : ∀ entry ∈ entries, ReadsWhole entry.2) {ts : List Lexeme}
    (hTokens : ts.map Lexeme.token = entryTokens entries) {t : Lexeme}
    (hClosing : t.token = .symbol .closeBrace) (rest : List Lexeme) :
    Reads .entries (ts ++ t :: rest) entries rest := by
  induction entries generalizing ts with
  | nil =>
      cases List.map_eq_nil_iff.mp hTokens
      exact .entriesEnd hClosing
  | cons entry others ih =>
      obtain ⟨key, value⟩ := entry
      obtain ⟨hValue, hOthers⟩ := List.forall_mem_cons.mp hEntries
      cases others with
      | nil =>
          obtain ⟨label, _, rfl, hLabel, hMore⟩ := List.map_eq_cons_iff.mp hTokens
          obtain ⟨colon, inner, rfl, hColon, hInner⟩ := List.map_eq_cons_iff.mp hMore
          exact .entriesLast (congrArg label? hLabel) hColon
            (hValue.reads hInner (ends_of_symbol hClosing rfl rfl)) hClosing
      | cons next more =>
          obtain ⟨first, _, rfl, hFirst, hMore⟩ := List.map_eq_append_iff.mp hTokens
          obtain ⟨label, _, rfl, hLabel, hInside⟩ := List.map_eq_cons_iff.mp hFirst
          obtain ⟨colon, inner, rfl, hColon, hInner⟩ := List.map_eq_cons_iff.mp hInside
          obtain ⟨comma, behind, rfl, hComma, hBehind⟩ := List.map_eq_cons_iff.mp hMore
          rw [List.append_assoc, List.cons_append, List.cons_append, List.cons_append]
          exact .entriesMore (congrArg label? hLabel) hColon
            (hValue.reads hInner (ends_of_symbol hComma rfl rfl)) hComma (ih hOthers hBehind)

/-- The tokens of a single literal, or of a name, stand for it. -/
theorem stands_of_primary {e : Expr} {t : Lexeme}
    (h : ∀ rest, Reads .primary (t :: rest) e rest) : Stands e [t] 0 :=
  fun _ _ _ hSuffixes => .operand (h _) hSuffixes

theorem reads_name {word : String} (hFree : IsFreeName word) {t : Lexeme}
    (hToken : t.token = .identifier word) (rest : List Lexeme) :
    Reads .primary (t :: rest) (name word) rest :=
  .name hToken fun hReserved => by rw [hFree.unreserved] at hReserved; cases hReserved

/-- A minus in front of the size of a number gives the number back. -/
theorem negate_abs {n : Number} (hMinus : n.hasMinus = true) :
    negate (literal (.number n.abs)) = literal (.number n) := by
  cases n with
  | nan => cases hMinus
  | infinity negative =>
      cases hMinus
      rfl
  | finite negative units fits =>
      cases hMinus
      rfl

/-- A number stands where it is written, with a sign as an operator. -/
theorem stands_number (n : Number) {ts : List Lexeme}
    (hTokens : ts.map Lexeme.token = tokens (literal (.number n))) :
    Stands (literal (.number n)) ts (looseness (literal (.number n))) := by
  rw [tokens, literalTokens] at hTokens
  rw [looseness]
  split at hTokens
  · next hMinus =>
      obtain ⟨minus, _, rfl, hSign, hMore⟩ := List.map_eq_cons_iff.mp hTokens
      obtain ⟨size, _, rfl, hSize, hNil⟩ := List.map_eq_cons_iff.mp hMore
      cases List.map_eq_nil_iff.mp hNil
      rw [if_pos hMinus, ← negate_abs hMinus]
      intro rest hStop
      refine .unaryMinus hSign (.unaryNone ?_ ?_ (.operand (.literal ?_) (.suffixEnd hStop)))
      · simp [current, hSize]
      · simp [current, hSize]
      · rw [hSize, ofToken?]
  · next hMinus =>
      obtain ⟨size, _, rfl, hSize, hNil⟩ := List.map_eq_cons_iff.mp hTokens
      cases List.map_eq_nil_iff.mp hNil
      rw [if_neg hMinus]
      exact stands_of_primary fun rest => .literal (by rw [hSize, ofToken?])

/-- An operation stands where it is written, as loosely as its operator binds. -/
theorem stands_binary {op : Op} {left right : Expr} (hLeft : ReadsWhole left)
    (hRight : ReadsWhole right) {ts : List Lexeme}
    (hTokens : ts.map Lexeme.token = tokens (binary op left right)) :
    Stands (binary op left right) ts (op.level + 1) := by
  rw [tokens] at hTokens
  obtain ⟨before, _, rfl, hBefore, hMore⟩ := List.map_eq_append_iff.mp hTokens
  obtain ⟨sign, behind, rfl, hSign, hBehind⟩ := List.map_eq_cons_iff.mp hMore
  have hStandsLeft := hLeft.enclosed hBefore
  have hStandsRight := hRight.enclosed hBehind
  obtain ⟨below, hLevel⟩ := Nat.exists_eq_succ_of_ne_zero (Nat.ne_of_gt op.level_pos)
  have hOp (l : Nat) : opOfLevel? l sign.token = if op.level = l then some op else none := by
    rw [hSign, opOfLevel?, op.op?_sign]
    by_cases h : op.level = l <;> simp [h]
  rw [hLevel] at hStandsLeft hStandsRight ⊢
  intro rest whole left' hEnds hChain
  rw [List.append_assoc, List.cons_append]
  refine hStandsLeft ⟨?_, fun l hl => ?_⟩ (.chainMore ?_ (Stands.reads hStandsRight hEnds) hChain)
  · rw [current, hSign]
    cases op <;> rfl
  · rw [current, hOp, if_neg (by omega)]
  · rw [hOp, if_pos hLevel]

/-- Every expression that can be written is read back from its tokens, whatever stands behind. -/
theorem Writable.readsWhole {e : Expr} (h : Writable e) : ReadsWhole e := by
  induction h with
  | @number n _ => exact fun _ => stands_number n
  | string s =>
      intro ts hTokens
      obtain ⟨t, _, rfl, hToken, hNil⟩ := List.map_eq_cons_iff.mp hTokens
      cases List.map_eq_nil_iff.mp hNil
      exact stands_of_primary fun rest => .literal (by rw [hToken, ofToken?])
  | boolean b =>
      intro ts hTokens
      obtain ⟨t, _, rfl, hToken, hNil⟩ := List.map_eq_cons_iff.mp hTokens
      cases List.map_eq_nil_iff.mp hNil
      exact stands_of_primary fun rest => .literal (by rw [hToken, ofToken?])
  | null =>
      intro ts hTokens
      obtain ⟨t, _, rfl, hToken, hNil⟩ := List.map_eq_cons_iff.mp hTokens
      cases List.map_eq_nil_iff.mp hNil
      exact stands_of_primary fun rest => .literal (by rw [hToken, ofToken?])
  | name free =>
      intro ts hTokens
      obtain ⟨t, _, rfl, hToken, hNil⟩ := List.map_eq_cons_iff.mp hTokens
      cases List.map_eq_nil_iff.mp hNil
      exact stands_of_primary fun rest => reads_name free hToken rest
  | binary op _ _ ihLeft ihRight => exact fun ts => stands_binary ihLeft ihRight
  | @call word args free inside ihInside =>
      intro ts hTokens rest whole left hSuffixes
      rw [tokens, tokens] at hTokens
      obtain ⟨callee, _, rfl, hCallee, hMore⟩ := List.map_eq_cons_iff.mp hTokens
      obtain ⟨opening, _, rfl, hOpening, hBehind⟩ := List.map_eq_cons_iff.mp hMore
      obtain ⟨inner, _, rfl, hInner, hLast⟩ := List.map_eq_append_iff.mp hBehind
      obtain ⟨closing, _, rfl, hClosing, hNil⟩ := List.map_eq_cons_iff.mp hLast
      cases List.map_eq_nil_iff.mp hNil
      have hItems := readsItems ihInside (.inl rfl) hInner hClosing rest
      rw [List.cons_append, List.cons_append, List.append_assoc, List.singleton_append]
      exact .operand (reads_name free hCallee _) (.suffixCall hOpening hItems hSuffixes)
  | index outside inside ihOutside ihInside =>
      intro ts hTokens rest whole left hSuffixes
      rw [tokens] at hTokens
      obtain ⟨before, _, rfl, hBefore, hMore⟩ := List.map_eq_append_iff.mp hTokens
      obtain ⟨opening, _, rfl, hOpening, hBehind⟩ := List.map_eq_cons_iff.mp hMore
      obtain ⟨inner, _, rfl, hInner, hLast⟩ := List.map_eq_append_iff.mp hBehind
      obtain ⟨closing, _, rfl, hClosing, hNil⟩ := List.map_eq_cons_iff.mp hLast
      cases List.map_eq_nil_iff.mp hNil
      have hEnds : Ends Op.maxLevel (closing :: rest) := ends_of_symbol hClosing rfl rfl
      have hInside := ihInside.reads hInner hEnds
      rw [List.append_assoc, List.cons_append, List.append_assoc, List.singleton_append]
      exact ihOutside.enclosed hBefore (.suffixIndex hOpening hInside hClosing hSuffixes)
  | not inside ih =>
      intro ts hTokens rest hStop
      rw [tokens] at hTokens
      obtain ⟨sign, _, rfl, hSign, hMore⟩ := List.map_eq_cons_iff.mp hTokens
      exact .unaryNot hSign (ih.enclosed hMore hStop)
  | @list items inside ih =>
      intro ts hTokens
      rw [tokens] at hTokens
      obtain ⟨opening, _, rfl, hOpening, hBehind⟩ := List.map_eq_cons_iff.mp hTokens
      obtain ⟨inner, _, rfl, hInner, hLast⟩ := List.map_eq_append_iff.mp hBehind
      obtain ⟨closing, _, rfl, hClosing, hNil⟩ := List.map_eq_cons_iff.mp hLast
      cases List.map_eq_nil_iff.mp hNil
      intro rest whole left hSuffixes
      rw [List.cons_append, List.append_assoc, List.singleton_append]
      exact .operand (.list hOpening (readsItems ih (.inr rfl) hInner hClosing rest)) hSuffixes
  | @object entries distinct inside ih =>
      intro ts hTokens
      rw [tokens] at hTokens
      obtain ⟨opening, _, rfl, hOpening, hBehind⟩ := List.map_eq_cons_iff.mp hTokens
      obtain ⟨inner, _, rfl, hInner, hLast⟩ := List.map_eq_append_iff.mp hBehind
      obtain ⟨closing, _, rfl, hClosing, hNil⟩ := List.map_eq_cons_iff.mp hLast
      cases List.map_eq_nil_iff.mp hNil
      intro rest whole left hSuffixes
      rw [List.cons_append, List.append_assoc, List.singleton_append]
      have hObject := Reads.object hOpening (readsEntries ih hInner hClosing rest)
      rw [Keyed.ofList_of_nodup entries distinct] at hObject
      exact .operand hObject hSuffixes

end Expr

end DocQuery
