import DocQuery.Expr.Read
import DocQuery.Proofs.Outcome

/-!
The grammar of expressions as a relation between the tokens in front of a part, what the part is read
as, and the tokens behind it. The readers answer exactly what the grammar says, so that facts about
reading are proved by induction on the grammar, and facts about what can be read by building its rules.
-/

namespace DocQuery

/-- Reserved words are so in any letter case. -/
theorem isReserved_congr {word other : String} (h : Text.sameUpToAsciiCase word other = true) :
    isReserved word = isReserved other := by
  rw [Text.sameUpToAsciiCase, beq_iff_eq] at h
  have hEqual : Text.sameUpToAsciiCase word = Text.sameUpToAsciiCase other := by
    funext reserved
    rw [Text.sameUpToAsciiCase, Text.sameUpToAsciiCase, h]
  rw [isReserved, isReserved, hEqual]

namespace Expr

open Lexeme

/-- The parts of expressions that have a reader. -/
inductive Phrase where
  | level (level : Nat)
  /-- Further operators of the level above `below` behind a left operand. -/
  | chain (below : Nat) (left : Expr)
  | unary
  | operand
  /-- Fields, indices and arguments behind an expression. -/
  | suffixes (base : Expr)
  | primary
  | items (closing : Symbol)
  | entries

@[reducible] def Phrase.Result : Phrase → Type
  | items _ => List Expr
  | entries => List (String × Expr)
  | level _ | chain .. | unary | operand | suffixes _ | primary => Expr

/-- The key that a token stands for in front of a colon. -/
def label? : Token → Option String
  | .identifier word => some word
  | .string s => some s
  | _ => none

/-- Whether a token goes on with an operand. -/
def isSuffix (token : Token) : Bool :=
  token == .symbol .dot || token == .symbol .openBracket || token == .symbol .openParen

/-- A part stands in front of some tokens and leaves others. -/
inductive Reads : (phrase : Phrase) → List Lexeme → phrase.Result → List Lexeme → Prop where
  | levelZero {ts rest} {e : Expr} (unary : Reads .unary ts e rest) : Reads (.level 0) ts e rest
  | levelSucc {below ts middle rest} {left e : Expr} (first : Reads (.level below) ts left middle)
      (others : Reads (.chain below left) middle e rest) : Reads (.level (below + 1)) ts e rest
  | chainEnd {below left ts} (stop : opOfLevel? (below + 1) (current ts) = none) :
      Reads (.chain below left) ts left ts
  | chainMore {below t op more middle rest} {left right e : Expr}
      (operator : opOfLevel? (below + 1) t.token = some op)
      (operand : Reads (.level below) more right middle)
      (others : Reads (.chain below (binary op left right)) middle e rest) :
      Reads (.chain below left) (t :: more) e rest
  | unaryNot {t more rest} {e : Expr} (sign : t.token = .symbol .bang)
      (operand : Reads .unary more e rest) : Reads .unary (t :: more) (not e) rest
  | unaryMinus {t more rest} {e : Expr} (sign : t.token = .symbol .minus)
      (operand : Reads .unary more e rest) : Reads .unary (t :: more) (negate e) rest
  | unaryNone {ts rest} {e : Expr} (notBang : current ts ≠ .symbol .bang)
      (notMinus : current ts ≠ .symbol .minus) (operand : Reads .operand ts e rest) :
      Reads .unary ts e rest
  | operand {ts middle rest} {base e : Expr} (first : Reads .primary ts base middle)
      (others : Reads (.suffixes base) middle e rest) : Reads .operand ts e rest
  | suffixEnd {base ts} (stop : isSuffix (current ts) = false) : Reads (.suffixes base) ts base ts
  | suffixField {t u word more rest} {base e : Expr} (dot : t.token = .symbol .dot)
      (field : u.token = .identifier word)
      (others : Reads (.suffixes (property base word)) more e rest) :
      Reads (.suffixes base) (t :: u :: more) e rest
  | suffixIndex {t more u middle rest} {base inner e : Expr} (opening : t.token = .symbol .openBracket)
      (inside : Reads (.level Op.maxLevel) more inner (u :: middle))
      (closing : u.token = .symbol .closeBracket)
      (others : Reads (.suffixes (index base inner)) middle e rest) :
      Reads (.suffixes base) (t :: more) e rest
  | suffixCall {t more middle rest} {base e : Expr} {args : List Expr}
      (opening : t.token = .symbol .openParen) (inside : Reads (.items .closeParen) more args middle)
      (others : Reads (.suffixes (call base args)) middle e rest) :
      Reads (.suffixes base) (t :: more) e rest
  | literal {t rest} {e : Expr} (value : ofToken? t.token = some e) : Reads .primary (t :: rest) e rest
  | name {t word rest} (identifier : t.token = .identifier word)
      (free : isReserved word = true → isCall (t :: rest) = true) :
      Reads .primary (t :: rest) (name word) rest
  | parens {t more u rest} {e : Expr} (opening : t.token = .symbol .openParen)
      (inside : Reads (.level Op.maxLevel) more e (u :: rest))
      (closing : u.token = .symbol .closeParen) : Reads .primary (t :: more) e rest
  | list {t more rest} {items : List Expr} (opening : t.token = .symbol .openBracket)
      (inside : Reads (.items .closeBracket) more items rest) :
      Reads .primary (t :: more) (list items) rest
  | object {t more rest} {entries : List (String × Expr)} (opening : t.token = .symbol .openBrace)
      (inside : Reads .entries more entries rest) :
      Reads .primary (t :: more) (object (Keyed.ofList entries)) rest
  | itemsEnd {closing t rest} (stop : t.token = .symbol closing) :
      Reads (.items closing) (t :: rest) [] rest
  | itemsLast {closing ts u rest} {item : Expr} (notClosed : current ts ≠ .symbol closing)
      (first : Reads (.level Op.maxLevel) ts item (u :: rest)) (stop : u.token = .symbol closing) :
      Reads (.items closing) ts [item] rest
  | itemsMore {closing ts u middle rest} {item : Expr} {others : List Expr}
      (notClosed : current ts ≠ .symbol closing)
      (first : Reads (.level Op.maxLevel) ts item (u :: middle)) (comma : u.token = .symbol .comma)
      (apart : u.token ≠ .symbol closing) (go : Reads (.items closing) middle others rest) :
      Reads (.items closing) ts (item :: others) rest
  | entriesEnd {t rest} (stop : t.token = .symbol .closeBrace) : Reads .entries (t :: rest) [] rest
  | entriesLast {t key u more w rest} {value : Expr} (label : label? t.token = some key)
      (colon : u.token = .symbol .colon)
      (first : Reads (.level Op.maxLevel) more value (w :: rest))
      (stop : w.token = .symbol .closeBrace) : Reads .entries (t :: u :: more) [(key, value)] rest
  | entriesMore {t key u more w middle rest} {value : Expr} {others : List (String × Expr)}
      (label : label? t.token = some key) (colon : u.token = .symbol .colon)
      (first : Reads (.level Op.maxLevel) more value (w :: middle))
      (comma : w.token = .symbol .comma) (go : Reads .entries middle others rest) :
      Reads .entries (t :: u :: more) ((key, value) :: others) rest

/-! Readers follow the grammar. -/

/-- A symbol that was taken is the next token. -/
theorem takeSymbol_eq_ok_iff {symbol : Symbol} {ts rest : List Lexeme} {u : Unit}
    {within : rest.length < ts.length} :
    takeSymbol symbol ts = .ok ⟨u, rest, within⟩ ↔ ∃ t, ts = t :: rest ∧ t.token = .symbol symbol := by
  cases ts with
  | nil => cases within
  | cons t more =>
      by_cases hToken : t.token = .symbol symbol <;> simp [takeSymbol, hToken, and_assoc]

/-- A name is taken when the next token is one. -/
theorem takeName_eq_ok_iff {what word : String} {ts rest : List Lexeme}
    {within : rest.length < ts.length} :
    takeName what ts = .ok ⟨word, rest, within⟩ ↔ ∃ t, ts = t :: rest ∧ t.token = .identifier word := by
  cases ts with
  | nil => cases within
  | cons t more =>
      obtain ⟨token, start, stop⟩ := t
      cases token <;> simp [takeName, and_assoc, and_comm]

/-- A key is taken when the next token can be one. -/
theorem takeLabel_eq_ok_iff {what key : String} {ts rest : List Lexeme}
    {within : rest.length < ts.length} :
    takeLabel what ts = .ok ⟨key, rest, within⟩ ↔ ∃ t, ts = t :: rest ∧ label? t.token = some key := by
  cases ts with
  | nil => cases within
  | cons t more =>
      obtain ⟨token, start, stop⟩ := t
      cases token <;> simp [takeLabel, label?, and_assoc, and_comm]

mutual

theorem reads_of_readLevel {level : Nat} {ts : List Lexeme} {p : Parsed Expr ts.length}
    (h : readLevel level ts = .ok p) : Reads (.level level) ts p.value p.rest := by
  match level, h with
  | 0, h =>
      rw [readLevel] at h
      exact .levelZero (reads_of_readUnary h)
  | below + 1, h =>
      rw [readLevel] at h
      obtain ⟨⟨left, middle, hMiddle⟩, hLeft, h⟩ := bind_eq_ok_iff.mp h
      obtain ⟨chain, hChain, h⟩ := bind_eq_ok_iff.mp h
      cases h
      exact .levelSucc (reads_of_readLevel hLeft) (reads_of_readChain hChain)
termination_by (ts.length, level + 3)

theorem reads_of_readChain {below : Nat} {left : Expr} {ts : List Lexeme}
    {p : Parsed Expr (ts.length + 1)} (h : readChain below left ts = .ok p) :
    Reads (.chain below left) ts p.value p.rest := by
  match ts, p, h with
  | [], p, h =>
      rw [readChain] at h
      cases h
      exact .chainEnd rfl
  | t :: more, p, h =>
      rw [readChain] at h
      split at h
      · next hStop =>
          cases h
          exact .chainEnd hStop
      · next op hOp =>
          obtain ⟨⟨right, middle, hMiddle⟩, hRight, h⟩ := bind_eq_ok_iff.mp h
          obtain ⟨chain, hChain, h⟩ := bind_eq_ok_iff.mp h
          cases h
          exact .chainMore hOp (reads_of_readLevel hRight) (reads_of_readChain hChain)
termination_by (ts.length, 0)

theorem reads_of_readUnary {ts : List Lexeme} {p : Parsed Expr ts.length}
    (h : readUnary ts = .ok p) : Reads .unary ts p.value p.rest := by
  match ts, p, h with
  | [], p, h =>
      rw [readUnary] at h
      exact .unaryNone nofun nofun (reads_of_readPostfix h)
  | t :: more, p, h =>
      rw [readUnary] at h
      split at h
      · next hBang =>
          obtain ⟨operand, hOperand, h⟩ := bind_eq_ok_iff.mp h
          cases h
          exact .unaryNot hBang (reads_of_readUnary hOperand)
      · next hBang =>
          split at h
          · next hMinus =>
              obtain ⟨operand, hOperand, h⟩ := bind_eq_ok_iff.mp h
              cases h
              exact .unaryMinus hMinus (reads_of_readUnary hOperand)
          · next hMinus => exact .unaryNone hBang hMinus (reads_of_readPostfix h)
termination_by (ts.length, 2)

theorem reads_of_readPostfix {ts : List Lexeme} {p : Parsed Expr ts.length}
    (h : readPostfix ts = .ok p) : Reads .operand ts p.value p.rest := by
  rw [readPostfix] at h
  obtain ⟨⟨base, middle, hMiddle⟩, hBase, h⟩ := bind_eq_ok_iff.mp h
  obtain ⟨chain, hChain, h⟩ := bind_eq_ok_iff.mp h
  cases h
  exact .operand (reads_of_readPrimary hBase) (reads_of_readSuffixes hChain)
termination_by (ts.length, 1)

theorem reads_of_readSuffixes {base : Expr} {ts : List Lexeme} {p : Parsed Expr (ts.length + 1)}
    (h : readSuffixes base ts = .ok p) : Reads (.suffixes base) ts p.value p.rest := by
  match ts, p, h with
  | [], p, h =>
      rw [readSuffixes] at h
      cases h
      exact .suffixEnd rfl
  | t :: more, p, h =>
      rw [readSuffixes] at h
      split at h
      · next hDot =>
          obtain ⟨⟨word, middle, hMiddle⟩, hName, h⟩ := bind_eq_ok_iff.mp h
          obtain ⟨chain, hChain, h⟩ := bind_eq_ok_iff.mp h
          cases h
          obtain ⟨u, rfl, hField⟩ := takeName_eq_ok_iff.mp hName
          exact .suffixField hDot hField (reads_of_readSuffixes hChain)
      · next hDot =>
          split at h
          · next hOpening =>
              obtain ⟨⟨inner, beforeClose, hInnerWithin⟩, hInner, h⟩ := bind_eq_ok_iff.mp h
              obtain ⟨⟨⟨⟩, middle, hMiddle⟩, hClose, h⟩ := bind_eq_ok_iff.mp h
              obtain ⟨chain, hChain, h⟩ := bind_eq_ok_iff.mp h
              cases h
              have : middle.length < more.length + 1 :=
                Nat.lt_succ_of_lt (Nat.lt_trans hMiddle hInnerWithin)
              have hInside := reads_of_readLevel hInner
              have hOthers := reads_of_readSuffixes hChain
              obtain ⟨u, rfl, hClosing⟩ := takeSymbol_eq_ok_iff.mp hClose
              exact .suffixIndex hOpening hInside hClosing hOthers
          · next hBracket =>
              split at h
              · next hOpening =>
                  obtain ⟨⟨args, middle, hMiddle⟩, hArgs, h⟩ := bind_eq_ok_iff.mp h
                  obtain ⟨chain, hChain, h⟩ := bind_eq_ok_iff.mp h
                  cases h
                  exact .suffixCall hOpening (reads_of_readItems hArgs)
                    (reads_of_readSuffixes hChain)
              · next hParen =>
                  cases h
                  exact .suffixEnd (by simp [isSuffix, current, hDot, hBracket, hParen])
termination_by (ts.length, 0)

theorem reads_of_readPrimary {ts : List Lexeme} {p : Parsed Expr ts.length}
    (h : readPrimary ts = .ok p) : Reads .primary ts p.value p.rest := by
  match ts, p, h with
  | [], p, h =>
      rw [readPrimary] at h
      cases h
  | t :: more, p, h =>
      rw [readPrimary] at h
      split at h
      · next hValue =>
          cases h
          exact .literal hValue
      · next word hNone hToken =>
          split at h
          · cases h
          · next hFree =>
              cases h
              exact .name hToken (by simpa using hFree)
      · next hNone hToken =>
          obtain ⟨⟨inner, beforeClose, hInnerWithin⟩, hInner, h⟩ := bind_eq_ok_iff.mp h
          obtain ⟨⟨⟨⟩, rest, hRest⟩, hClose, h⟩ := bind_eq_ok_iff.mp h
          cases h
          obtain ⟨u, rfl, hClosing⟩ := takeSymbol_eq_ok_iff.mp hClose
          exact .parens hToken (reads_of_readLevel hInner) hClosing
      · next hNone hToken =>
          obtain ⟨items, hItems, h⟩ := bind_eq_ok_iff.mp h
          cases h
          exact .list hToken (reads_of_readItems hItems)
      · next hNone hToken =>
          obtain ⟨entries, hEntries, h⟩ := bind_eq_ok_iff.mp h
          cases h
          exact .object hToken (reads_of_readEntries hEntries)
      · cases h
termination_by (ts.length, 0)

theorem reads_of_readItems {closing : Symbol} {ts : List Lexeme}
    {p : Parsed (List Expr) ts.length} (h : readItems closing ts = .ok p) :
    Reads (.items closing) ts p.value p.rest := by
  match ts, p, h with
  | [], p, h =>
      rw [readItems] at h
      cases h
  | t :: more, p, h =>
      rw [readItems] at h
      split at h
      · next hStop =>
          cases h
          exact .itemsEnd hStop
      · next hOpen =>
          obtain ⟨⟨item, behind, hBehind⟩, hItem, h⟩ := bind_eq_ok_iff.mp h
          have hFirst := reads_of_readLevel hItem
          split at h
          · next hLast =>
              obtain ⟨⟨⟨⟩, rest, hRest⟩, hClose, h⟩ := bind_eq_ok_iff.mp h
              cases h
              obtain ⟨u, rfl, hClosing⟩ := takeSymbol_eq_ok_iff.mp hClose
              exact .itemsLast hOpen hFirst hClosing
          · next hMore =>
              obtain ⟨⟨⟨⟩, middle, hMiddle⟩, hComma, h⟩ := bind_eq_ok_iff.mp h
              obtain ⟨others, hOthers, h⟩ := bind_eq_ok_iff.mp h
              cases h
              have : middle.length < more.length + 1 := Nat.lt_trans hMiddle hBehind
              have hGo := reads_of_readItems hOthers
              obtain ⟨u, rfl, hToken⟩ := takeSymbol_eq_ok_iff.mp hComma
              exact .itemsMore hOpen hFirst hToken hMore hGo
termination_by (ts.length, Op.maxLevel + 4)

theorem reads_of_readEntries {ts : List Lexeme} {p : Parsed (List (String × Expr)) ts.length}
    (h : readEntries ts = .ok p) : Reads .entries ts p.value p.rest := by
  match ts, p, h with
  | [], p, h =>
      rw [readEntries] at h
      cases h
  | t :: more, p, h =>
      rw [readEntries] at h
      split at h
      · next hStop =>
          cases h
          exact .entriesEnd hStop
      · next hOpen =>
          obtain ⟨⟨key, behindKey, hBehindKey⟩, hKey, h⟩ := bind_eq_ok_iff.mp h
          obtain ⟨⟨⟨⟩, behindColon, hBehindColon⟩, hColon, h⟩ := bind_eq_ok_iff.mp h
          obtain ⟨⟨value, behind, hBehind⟩, hValue, h⟩ := bind_eq_ok_iff.mp h
          have hColonWithin : behindColon.length < more.length + 1 :=
            Nat.lt_trans hBehindColon hBehindKey
          have hFirst := reads_of_readLevel hValue
          obtain ⟨_, hSame, hLabel⟩ := takeLabel_eq_ok_iff.mp hKey
          split at h
          · next hLast =>
              obtain ⟨⟨⟨⟩, rest, hRest⟩, hClose, h⟩ := bind_eq_ok_iff.mp h
              cases h
              cases hSame
              obtain ⟨u, rfl, hColonToken⟩ := takeSymbol_eq_ok_iff.mp hColon
              obtain ⟨w, rfl, hClosing⟩ := takeSymbol_eq_ok_iff.mp hClose
              exact .entriesLast hLabel hColonToken hFirst hClosing
          · next hMore =>
              obtain ⟨⟨⟨⟩, middle, hMiddle⟩, hComma, h⟩ := bind_eq_ok_iff.mp h
              obtain ⟨others, hOthers, h⟩ := bind_eq_ok_iff.mp h
              cases h
              have : middle.length < more.length + 1 :=
                Nat.lt_trans (Nat.lt_trans hMiddle hBehind) hColonWithin
              have hGo := reads_of_readEntries hOthers
              cases hSame
              obtain ⟨u, rfl, hColonToken⟩ := takeSymbol_eq_ok_iff.mp hColon
              obtain ⟨w, rfl, hToken⟩ := takeSymbol_eq_ok_iff.mp hComma
              exact .entriesMore hLabel hColonToken hFirst hToken hGo
termination_by (ts.length, 0)

end

/-! Readers find what the grammar allows. -/

/-- The reader of a part gives an expression and leaves some tokens. -/
def Phrase.Answers : (phrase : Phrase) → List Lexeme → phrase.Result → List Lexeme → Prop
  | level n, ts, e, rest => ∃ h, readLevel n ts = .ok ⟨e, rest, h⟩
  | chain below left, ts, e, rest => ∃ h, readChain below left ts = .ok ⟨e, rest, h⟩
  | unary, ts, e, rest => ∃ h, readUnary ts = .ok ⟨e, rest, h⟩
  | operand, ts, e, rest => ∃ h, readPostfix ts = .ok ⟨e, rest, h⟩
  | suffixes base, ts, e, rest => ∃ h, readSuffixes base ts = .ok ⟨e, rest, h⟩
  | primary, ts, e, rest => ∃ h, readPrimary ts = .ok ⟨e, rest, h⟩
  | items closing, ts, es, rest => ∃ h, readItems closing ts = .ok ⟨es, rest, h⟩
  | entries, ts, es, rest => ∃ h, readEntries ts = .ok ⟨es, rest, h⟩

/-- What a part is read as by the rules is what its reader answers. The induction is over the rules, one
case for each. -/
theorem Reads.answers {phrase : Phrase} {ts rest : List Lexeme} {v : phrase.Result}
    (h : Reads phrase ts v rest) : phrase.Answers ts v rest := by
  induction h with
  | levelZero unary ih =>
      obtain ⟨within, hUnary⟩ := ih
      exact ⟨within, by rw [readLevel, hUnary]⟩
  | levelSucc first others ihFirst ihOthers =>
      obtain ⟨hWithin, hFirst⟩ := ihFirst
      obtain ⟨hOthersWithin, hOthers⟩ := ihOthers
      refine ⟨by omega, ?_⟩
      rw [readLevel]
      exact bind_eq_ok_iff.mpr ⟨_, hFirst, bind_eq_ok_iff.mpr ⟨_, hOthers, rfl⟩⟩
  | @chainEnd _ _ ts stop =>
      refine ⟨Nat.lt_succ_self _, ?_⟩
      cases ts with
      | nil => rw [readChain]
      | cons t more =>
          have hStop : opOfLevel? _ t.token = none := stop
          rw [readChain, hStop]
  | chainMore operator operand others ihOperand ihOthers =>
      obtain ⟨hWithin, hOperand⟩ := ihOperand
      obtain ⟨hOthersWithin, hOthers⟩ := ihOthers
      refine ⟨by simp only [List.length_cons]; omega, ?_⟩
      rw [readChain, operator]
      exact bind_eq_ok_iff.mpr ⟨_, hOperand, bind_eq_ok_iff.mpr ⟨_, hOthers, rfl⟩⟩
  | unaryNot sign operand ih =>
      obtain ⟨hWithin, hOperand⟩ := ih
      refine ⟨Nat.lt_succ_of_lt hWithin, ?_⟩
      rw [readUnary, if_pos sign]
      exact bind_eq_ok_iff.mpr ⟨_, hOperand, rfl⟩
  | unaryMinus sign operand ih =>
      obtain ⟨hWithin, hOperand⟩ := ih
      refine ⟨Nat.lt_succ_of_lt hWithin, ?_⟩
      rw [readUnary, if_neg (by simp [sign]), if_pos sign]
      exact bind_eq_ok_iff.mpr ⟨_, hOperand, rfl⟩
  | @unaryNone ts _ _ notBang notMinus operand ih =>
      obtain ⟨hWithin, hOperand⟩ := ih
      refine ⟨hWithin, ?_⟩
      cases ts with
      | nil => rw [readUnary, hOperand]
      | cons t more => rw [readUnary]; exact (if_neg notBang).trans ((if_neg notMinus).trans hOperand)
  | operand first others ihFirst ihOthers =>
      obtain ⟨hWithin, hFirst⟩ := ihFirst
      obtain ⟨hOthersWithin, hOthers⟩ := ihOthers
      refine ⟨by omega, ?_⟩
      rw [readPostfix]
      exact bind_eq_ok_iff.mpr ⟨_, hFirst, bind_eq_ok_iff.mpr ⟨_, hOthers, rfl⟩⟩
  | @suffixEnd _ ts stop =>
      refine ⟨Nat.lt_succ_self _, ?_⟩
      cases ts with
      | nil => rw [readSuffixes]
      | cons t more =>
          have hStop : isSuffix t.token = false := stop
          simp only [isSuffix, Bool.or_eq_false_iff, beq_eq_false_iff_ne] at hStop
          rw [readSuffixes, if_neg hStop.1.1, if_neg hStop.1.2, if_neg hStop.2]
  | suffixField dot field others ih =>
      obtain ⟨hWithin, hOthers⟩ := ih
      refine ⟨by simp only [List.length_cons]; omega, ?_⟩
      rw [readSuffixes, if_pos dot]
      exact bind_eq_ok_iff.mpr ⟨⟨_, _, length_lt_cons _ _⟩, takeName_eq_ok_iff.mpr ⟨_, rfl, field⟩,
        bind_eq_ok_iff.mpr ⟨_, hOthers, rfl⟩⟩
  | suffixIndex opening inside closing others ihInside ihOthers =>
      obtain ⟨hWithin, hInside⟩ := ihInside
      obtain ⟨hOthersWithin, hOthers⟩ := ihOthers
      have hMiddle := Nat.lt_trans (length_lt_cons _ _) hWithin
      refine ⟨by simp only [List.length_cons]; omega, ?_⟩
      rw [readSuffixes, if_neg (by simp [opening]), if_pos opening]
      exact bind_eq_ok_iff.mpr ⟨_, hInside,
        bind_eq_ok_iff.mpr ⟨⟨(), _, length_lt_cons _ _⟩, takeSymbol_eq_ok_iff.mpr ⟨_, rfl, closing⟩,
          bind_eq_ok_iff.mpr ⟨_, hOthers, rfl⟩⟩⟩
  | suffixCall opening inside others ihInside ihOthers =>
      obtain ⟨hWithin, hInside⟩ := ihInside
      obtain ⟨hOthersWithin, hOthers⟩ := ihOthers
      refine ⟨by simp only [List.length_cons]; omega, ?_⟩
      rw [readSuffixes, if_neg (by simp [opening]), if_neg (by simp [opening]), if_pos opening]
      exact bind_eq_ok_iff.mpr ⟨_, hInside, bind_eq_ok_iff.mpr ⟨_, hOthers, rfl⟩⟩
  | literal value =>
      refine ⟨length_lt_cons _ _, ?_⟩
      rw [readPrimary, value]
  | name identifier free =>
      refine ⟨length_lt_cons _ _, ?_⟩
      rw [readPrimary, identifier]
      exact if_neg (by simpa using free)
  | parens opening inside closing ih =>
      obtain ⟨hWithin, hInside⟩ := ih
      refine ⟨Nat.lt_succ_of_lt (Nat.lt_trans (length_lt_cons _ _) hWithin), ?_⟩
      rw [readPrimary, opening]
      exact bind_eq_ok_iff.mpr ⟨_, hInside,
        bind_eq_ok_iff.mpr ⟨⟨(), _, length_lt_cons _ _⟩, takeSymbol_eq_ok_iff.mpr ⟨_, rfl, closing⟩,
          rfl⟩⟩
  | list opening inside ih =>
      obtain ⟨hWithin, hInside⟩ := ih
      refine ⟨Nat.lt_succ_of_lt hWithin, ?_⟩
      rw [readPrimary, opening]
      exact bind_eq_ok_iff.mpr ⟨_, hInside, rfl⟩
  | object opening inside ih =>
      obtain ⟨hWithin, hInside⟩ := ih
      refine ⟨Nat.lt_succ_of_lt hWithin, ?_⟩
      rw [readPrimary, opening]
      exact bind_eq_ok_iff.mpr ⟨_, hInside, rfl⟩
  | itemsEnd stop =>
      refine ⟨length_lt_cons _ _, ?_⟩
      rw [readItems, if_pos stop]
  | @itemsLast _ ts _ _ _ notClosed first stop ih =>
      obtain ⟨hWithin, hFirst⟩ := ih
      refine ⟨Nat.lt_trans (length_lt_cons _ _) hWithin, ?_⟩
      cases ts with
      | nil => cases hWithin
      | cons t more =>
          rw [readItems]
          refine (if_neg notClosed).trans (bind_eq_ok_iff.mpr ⟨_, hFirst, (if_pos stop).trans ?_⟩)
          exact bind_eq_ok_iff.mpr ⟨⟨(), _, length_lt_cons _ _⟩, takeSymbol_eq_ok_iff.mpr ⟨_, rfl, stop⟩,
            rfl⟩
  | @itemsMore _ ts _ _ _ _ _ notClosed first comma apart go ihFirst ihGo =>
      obtain ⟨hWithin, hFirst⟩ := ihFirst
      obtain ⟨hGoWithin, hGo⟩ := ihGo
      refine ⟨Nat.lt_trans hGoWithin (Nat.lt_trans (length_lt_cons _ _) hWithin), ?_⟩
      cases ts with
      | nil => cases hWithin
      | cons t more =>
          rw [readItems]
          refine (if_neg notClosed).trans (bind_eq_ok_iff.mpr ⟨_, hFirst, (if_neg apart).trans ?_⟩)
          exact bind_eq_ok_iff.mpr ⟨⟨(), _, length_lt_cons _ _⟩, takeSymbol_eq_ok_iff.mpr ⟨_, rfl, comma⟩,
            bind_eq_ok_iff.mpr ⟨_, hGo, rfl⟩⟩
  | entriesEnd stop =>
      refine ⟨length_lt_cons _ _, ?_⟩
      rw [readEntries, if_pos stop]
  | entriesLast label colon first stop ih =>
      obtain ⟨hWithin, hFirst⟩ := ih
      have hRest := Nat.lt_trans (length_lt_cons _ _) hWithin
      refine ⟨by simp only [List.length_cons]; omega, ?_⟩
      rw [readEntries, if_neg (by intro hBrace; simp [hBrace, label?] at label)]
      refine bind_eq_ok_iff.mpr ⟨⟨_, _, length_lt_cons _ _⟩, takeLabel_eq_ok_iff.mpr ⟨_, rfl, label⟩,
        bind_eq_ok_iff.mpr ⟨⟨(), _, length_lt_cons _ _⟩, takeSymbol_eq_ok_iff.mpr ⟨_, rfl, colon⟩,
          bind_eq_ok_iff.mpr ⟨_, hFirst, (if_pos stop).trans ?_⟩⟩⟩
      exact bind_eq_ok_iff.mpr ⟨⟨(), _, length_lt_cons _ _⟩, takeSymbol_eq_ok_iff.mpr ⟨_, rfl, stop⟩,
        rfl⟩
  | entriesMore label colon first comma go ihFirst ihGo =>
      obtain ⟨hWithin, hFirst⟩ := ihFirst
      obtain ⟨hGoWithin, hGo⟩ := ihGo
      have hMiddle := Nat.lt_trans (length_lt_cons _ _) hWithin
      have hOpen := mt comma.symm.trans (by decide : Token.symbol .comma ≠ .symbol .closeBrace)
      refine ⟨by simp only [List.length_cons]; omega, ?_⟩
      rw [readEntries, if_neg (by intro hBrace; simp [hBrace, label?] at label)]
      refine bind_eq_ok_iff.mpr ⟨⟨_, _, length_lt_cons _ _⟩, takeLabel_eq_ok_iff.mpr ⟨_, rfl, label⟩,
        bind_eq_ok_iff.mpr ⟨⟨(), _, length_lt_cons _ _⟩, takeSymbol_eq_ok_iff.mpr ⟨_, rfl, colon⟩,
          bind_eq_ok_iff.mpr ⟨_, hFirst, (if_neg hOpen).trans ?_⟩⟩⟩
      exact bind_eq_ok_iff.mpr ⟨⟨(), _, length_lt_cons _ _⟩, takeSymbol_eq_ok_iff.mpr ⟨_, rfl, comma⟩,
        bind_eq_ok_iff.mpr ⟨_, hGo, rfl⟩⟩

/-- A text is read as an expression if it is cut into tokens without a fault and they are read as it. -/
theorem ofText_eq_ok_iff {now : Date} {text : String} {e : Expr} : ofText now text = .ok e ↔
    (Scan.ofText now text).fault = none ∧ readAll (Scan.ofText now text).lexemes = .ok e := by
  rw [ofText, mapError_eq_ok_iff, Scan.lexemes?]
  cases (Scan.ofText now text).fault with
  | none => exact (and_iff_right rfl).symm
  | some f => exact iff_of_false nofun nofun

/-- Whether a token may begin an expression without a sign; of the symbols only brackets do. -/
def opensOperand : Token → Bool
  | .symbol s => s ∈ [.openParen, .openBracket, .openBrace]
  | _ => true

def Phrase.mayBegin (phrase : Phrase) (token : Token) : Bool :=
  match phrase with
  | operand | primary => opensOperand token
  | level _ | unary => opensOperand token || token == .symbol .bang || token == .symbol .minus
  | chain .. | suffixes _ | items _ | entries => true

/-- A part begins with a token that may begin it. -/
theorem Reads.mayBegin {phrase : Phrase} {ts rest : List Lexeme} {v : phrase.Result}
    (h : Reads phrase ts v rest) : phrase.mayBegin (current ts) = true := by
  induction h with
  | levelZero _ ih => exact ih
  | levelSucc _ _ ih _ => exact ih
  | operand _ _ ih _ => exact ih
  | unaryNone _ _ _ ih => exact Bool.or_eq_true_iff.mpr (.inl (Bool.or_eq_true_iff.mpr (.inl ih)))
  | @literal t _ _ value =>
      obtain ⟨token, start, stop⟩ := t
      cases token with
      | symbol s => cases value
      | _ => rfl
  | unaryNot sign | unaryMinus sign | name sign | parens sign | list sign | object sign =>
      simp [current, sign, Phrase.mayBegin, opensOperand]
  | chainEnd | chainMore | suffixEnd | suffixField | suffixIndex | suffixCall
  | itemsEnd | itemsLast | itemsMore | entriesEnd | entriesLast | entriesMore => rfl

end Expr
end DocQuery
