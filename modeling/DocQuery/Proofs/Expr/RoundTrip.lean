import DocQuery.Proofs.Token.Written

/-!
Written expressions are read back. Each token of the text is cut off at the blank behind it, and the
tokens are read as the expression that they were written for.
-/

namespace DocQuery

namespace Scan

/-- A text of tokens with one blank between them is cut into these tokens. -/
theorem run_written (now : Date) {tokens : List Token} (h : ∀ t ∈ tokens, t.ReadsBack) (offset : Nat) :
    ∃ ts stop, run now 0 offset ([' '].intercalate (tokens.map fun t => t.written.toList)) =
      ⟨ts ++ [⟨.finish, stop, stop⟩], none⟩ ∧ ts.map Lexeme.token = tokens := by
  induction tokens generalizing offset with
  | nil => exact ⟨[], offset, rfl, rfl⟩
  | cons t more ih =>
      obtain ⟨hFirst, hMore⟩ := List.forall_mem_cons.mp h
      cases more with
      | nil =>
          obtain ⟨c, within, hText, hBlank, hFront⟩ := hFirst
          refine ⟨[⟨t, offset, offset + (within.length + 1)⟩], offset + (within.length + 1), ?_, rfl⟩
          have hRun := run_token hBlank (hFront now [] (.inl rfl)) offset
          rw [List.append_nil] at hRun
          simp only [List.map_cons, List.map_nil, List.intercalate_singleton, hText, hRun]
          rfl
      | cons next more =>
          obtain ⟨ts, stop, hRest, hTokens⟩ := ih hMore (offset + t.written.toList.length + 1)
          refine ⟨⟨t, offset, offset + t.written.toList.length⟩ :: ts, stop, ?_, ?_⟩
          · rw [List.map_cons] at hRest
            rw [List.map_cons, List.map_cons, List.intercalate_cons_cons, List.append_assoc,
              List.singleton_append, run_readsBack hFirst, hRest]
            rfl
          · rw [List.map_cons, hTokens]

end Scan

namespace Expr

theorem readsBack_bracketed {opening closing : Symbol} {tokens : List Token}
    (h : ∀ t ∈ tokens, t.ReadsBack) :
    ∀ t ∈ .symbol opening :: (tokens ++ [.symbol closing]), t.ReadsBack :=
  List.forall_mem_cons.mpr ⟨Token.readsBack_symbol opening, List.forall_mem_append.mpr
    ⟨h, List.forall_mem_singleton.mpr (Token.readsBack_symbol closing)⟩⟩

theorem readsBack_enclosed {allowed actual : Nat} {tokens : List Token}
    (h : ∀ t ∈ tokens, t.ReadsBack) : ∀ t ∈ enclosed allowed actual tokens, t.ReadsBack := by
  rw [enclosed]
  split
  · exact h
  · exact readsBack_bracketed h

/-- The tokens of items are read back, with the commas between them. -/
theorem readsBack_items {items : List Expr} (h : ∀ item ∈ items, ∀ t ∈ item.tokens, t.ReadsBack) :
    ∀ t ∈ itemTokens items, t.ReadsBack := by
  induction items with
  | nil => exact List.forall_mem_nil _
  | cons item others ih =>
      obtain ⟨hItem, hOthers⟩ := List.forall_mem_cons.mp h
      cases others with
      | nil => exact hItem
      | cons next more =>
          exact List.forall_mem_append.mpr
            ⟨hItem, List.forall_mem_cons.mpr ⟨Token.readsBack_symbol _, ih hOthers⟩⟩

/-- The tokens of entries are read back, each key before its value. -/
theorem readsBack_entries {entries : List (String × Expr)}
    (h : ∀ entry ∈ entries, ∀ t ∈ entry.2.tokens, t.ReadsBack) :
    ∀ t ∈ entryTokens entries, t.ReadsBack := by
  induction entries with
  | nil => exact List.forall_mem_nil _
  | cons entry others ih =>
      obtain ⟨key, value⟩ := entry
      obtain ⟨hValue, hOthers⟩ := List.forall_mem_cons.mp h
      have hEntry : ∀ t ∈ Token.string key :: .symbol .colon :: value.tokens, t.ReadsBack :=
        List.forall_mem_cons.mpr ⟨Token.readsBack_string key,
          List.forall_mem_cons.mpr ⟨Token.readsBack_symbol _, hValue⟩⟩
      cases others with
      | nil => exact hEntry
      | cons next more =>
          exact List.forall_mem_append.mpr
            ⟨hEntry, List.forall_mem_cons.mpr ⟨Token.readsBack_symbol _, ih hOthers⟩⟩

/-- The tokens of a number are read back, its minus too. -/
theorem readsBack_number {n : Number} (hFinite : n.isFinite = true) :
    ∀ t ∈ literalTokens (.number n), t.ReadsBack := by
  rw [literalTokens]
  split
  · next hMinus =>
      have hSize : n.abs.isFinite = true ∧ n.abs.hasMinus = false := by
        cases n <;> cases hFinite
        exact ⟨rfl, rfl⟩
      simpa [Token.readsBack_symbol] using Token.readsBack_number hSize.1 hSize.2
  · next hMinus => simpa using Token.readsBack_number hFinite (by simpa using hMinus)

/-- Every token of an expression that can be written is read back from its text. -/
theorem Writable.readsBack {e : Expr} (h : Writable e) : ∀ t ∈ e.tokens, t.ReadsBack := by
  induction h with
  | number finite => exact readsBack_number finite
  | string s => simpa [tokens, literalTokens] using Token.readsBack_string s
  | boolean b => simpa [tokens, literalTokens] using Token.readsBack_boolean b
  | null => simpa [tokens, literalTokens] using Token.readsBack_null
  | name free => simpa [tokens] using Token.readsBack_name free
  | binary op _ _ ihLeft ihRight =>
      exact List.forall_mem_append.mpr ⟨readsBack_enclosed ihLeft,
        List.forall_mem_cons.mpr ⟨Token.readsBack_symbol _, readsBack_enclosed ihRight⟩⟩
  | call free _ ih =>
      rw [tokens, tokens]
      exact List.forall_mem_cons.mpr ⟨Token.readsBack_name free, readsBack_bracketed (readsBack_items ih)⟩
  | index _ _ ihOutside ihInside =>
      rw [tokens]
      exact List.forall_mem_append.mpr ⟨readsBack_enclosed ihOutside, readsBack_bracketed ihInside⟩
  | not _ ih => exact List.forall_mem_cons.mpr ⟨Token.readsBack_symbol _, readsBack_enclosed ih⟩
  | list _ ih => exact readsBack_bracketed (readsBack_items ih)
  | object _ _ ih => exact readsBack_bracketed (readsBack_entries ih)

/-- The written form is that of its tokens with blanks between them. -/
theorem toList_write (e : Expr) :
    e.write.toList = [' '].intercalate (e.tokens.map fun t => t.written.toList) := by
  rw [write, String.toList_intercalate, List.map_map]
  rfl

/-- The tokens of a written expression are read as the expression in front of the end. -/
theorem Writable.read_finish {e : Expr} (hWritable : Writable e) {ts : List Lexeme}
    (hTokens : ts.map Lexeme.token = e.tokens) (stop : Nat) :
    ∃ within, read (ts ++ [⟨.finish, stop, stop⟩]) = .ok ⟨e, [⟨.finish, stop, stop⟩], within⟩ :=
  (hWritable.readsWhole hTokens).read_eq e.looseness_le rfl

/-- The text of an expression that can be written is read as that expression. -/
theorem ofText_write {e : Expr} (hWritable : Writable e) (now : Date) : ofText now e.write = .ok e := by
  obtain ⟨ts, stop, hRun, hTokens⟩ := Scan.run_written now hWritable.readsBack 0
  obtain ⟨hWithin, hRead⟩ := hWritable.read_finish hTokens stop
  have hAll : readAll (ts ++ [⟨.finish, stop, stop⟩]) = .ok e :=
    bind_eq_ok_iff.mpr ⟨_, hRead, if_pos rfl⟩
  rw [ofText, Scan.ofText, toList_write, hRun]
  exact congrArg (Except.mapError (ReadError.locate e.write)) hAll

/-- An expression with a sign on either side, parentheses, a call, and brackets inside brackets. -/
def specimen : Expr :=
  binary .multiply (not (index (binary .add (name "a") (literal (.number (-2)))) (list [list []])))
    (call (name "f") [object [("\"k\"", literal .null)], literal (.boolean true)])

/-- Signs, nested lists and quotes within strings are read back. -/
theorem ofText_write_specimen : Writable specimen ∧
    specimen.write = "! ( a + - 2 ) [ [ [ ] ] ] * f ( \x7b \"\\\"k\\\"\" : null \x7d , true )" ∧
    ofText ⟨0, 0, 0⟩ specimen.write = .ok specimen := by
  have hA : IsFreeName "a" :=
    ⟨⟨'a', [], by simp, by decide⟩, by simp; decide, by decide +kernel, by decide +kernel⟩
  have hF : IsFreeName "f" :=
    ⟨⟨'f', [], by simp, by decide⟩, by simp; decide, by decide +kernel, by decide +kernel⟩
  have hNumber : Writable (literal (.number (-2))) := .number (by decide +kernel)
  have hBrackets : Writable (list [list []]) := .list (by simpa using .list (by simp))
  have hObject : Writable (object [("\"k\"", literal .null)]) := .object (by simp) (by simpa using .null)
  have hCall : Writable (call (.name "f") [object [("\"k\"", literal .null)], literal (.boolean true)]) :=
    .call hF (by simpa using ⟨hObject, .boolean true⟩)
  have hWritable : Writable specimen :=
    .binary _ (.not (.index (.binary _ (.name hA) hNumber) hBrackets)) hCall
  exact ⟨hWritable, by decide +kernel, ofText_write hWritable _⟩

end Expr

end DocQuery
