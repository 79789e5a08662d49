import DocQuery.Proofs.Eval.Variables
import DocQuery.Proofs.Expr.Written
import DocQuery.Proofs.Query.Keyword

/-!
Fields of the row by the way of `row`. A word that names no variable, because a clause begins with it,
still names a field behind `row.`. A word that stands for a symbol or a constant does not: the scan makes
another token of it, wherever it stands.
-/

namespace DocQuery

open Lexeme

namespace Token

/-- The name of the row is read off as a name in front of a dot. -/
theorem readFront_row (now : Date) (cs : List Char) :
    readFront now ('r' :: 'o' :: 'w' :: '.' :: cs) = .ok (.identifier "row", 3) := by
  have hParts : ∀ c ∈ ['r', 'o', 'w'], isNamePart c = true := List.all_eq_true.mp rfl
  have hStop : ∀ c ∈ ('.' :: cs).head?, isNamePart c = false := by
    rintro _ ⟨⟩
    rfl
  have hWord := readWord_before_stop now hParts hStop
  have hName : ofWord "row" = .identifier "row" := ofWord_of_ordinary (by decide)
  have hNoLiteral (name : String) : readTemporal? now name ('.' :: cs) = none := rfl
  rw [hNoLiteral] at hWord
  rw [readFront_of_isNameStart rfl]
  exact hWord.trans (congrArg (fun t => Except.ok (t, 3)) hName)

end Token

namespace Scan

/-- Behind `row.` a word that is shaped like a name is one token. -/
theorem ofText_row {word : String} (hShape : IsNameShaped word) (now : Date) :
    ofText now ("row." ++ word) =
      ⟨[⟨.identifier "row", 0, 3⟩, ⟨.symbol .dot, 3, 4⟩, ⟨Token.ofWord word, 4, 4 + word.length⟩,
        ⟨.finish, 4 + word.length, 4 + word.length⟩], none⟩ := by
  obtain ⟨c, cs, hWord, hStart⟩ := hShape.begins
  have hText : ("row." ++ word).toList = 'r' :: ['o', 'w'] ++ ('.' :: [] ++ (c :: cs ++ [])) := by
    rw [String.toList_append, hWord, List.append_nil]
    rfl
  have hFront : Token.readFront now (c :: cs ++ []) = .ok (Token.ofWord word, cs.length + 1) := by
    have hGoesOn := hShape.goesOn
    rw [hWord] at hGoesOn
    rw [List.cons_append, Token.readFront_of_isNameStart hStart, ← List.cons_append,
      Token.readWord_apart now hGoesOn (.inl rfl), ← hWord, String.ofList_toList, hWord, List.length_cons]
  have hLength : word.length = cs.length + 1 := by
    rw [← String.length_toList, hWord, List.length_cons]
  rw [ofText, hText, run_token rfl (Token.readFront_row now _), run_token rfl rfl,
    run_token (Token.isBlank_of_isNameStart hStart) hFront, hLength]
  rfl

end Scan

namespace Expr

variable {word : String}

/-- The text of a field of the row is read as an expression with the value of the field, in every context
and for every row that has no field `row` of its own. -/
def RowReaches (now : Date) (word : String) : Prop :=
  ∃ e, ofText now ("row." ++ word) = .ok e ∧
    ∀ (c : Context) (fields : Object), Keyed.get? fields "row" = none →
      e.eval c (some fields) = .ok (fields.get word)

/-- A field of the row is reached through the name `row`, if the row has no field of that name. -/
theorem eval_property_row (c : Context) {fields : Object} (hRow : Keyed.get? fields "row" = none)
    (word : String) : (property (name "row") word).eval c (some fields) = .ok (fields.get word) := by
  have hObject : c.lookup (some fields) "row" = .object fields := by
    rw [Context.lookup_some, hRow, Option.getD_none, if_pos rfl]
  rw [property, eval, eval, eval, hObject]
  rfl

theorem readAll_property {t u v w : Lexeme} (hName : t.token = .identifier "row")
    (hDot : u.token = .symbol .dot) (hField : v.token = .identifier word) (hEnd : w.token = .finish) :
    readAll [t, u, v, w] = .ok (property (name "row") word) := by
  have hStands : Stands (property (name "row") word) [t, u, v] 0 := by
    intro rest whole left hSuffixes
    refine .operand (.name hName fun hReserved => ?_) (.suffixField hDot hField hSuffixes)
    exact absurd hReserved (by decide)
  exact hStands.readAll_eq (Nat.zero_le _) hEnd

/-- A token that is no name is a fault behind a dot. -/
theorem readAll_row_fault {t u v w : Lexeme} (hName : t.token = .identifier "row")
    (hDot : u.token = .symbol .dot) (hField : ∀ name, v.token ≠ .identifier name) :
    readAll [t, u, v, w] = .error ⟨.expected "field name after '.'" v.token, v.start⟩ := by
  have hTake : takeName "field name after '.'" [v, w] =
      .error ⟨.expected "field name after '.'" v.token, v.start⟩ := by
    rw [takeName]
    split
    · exact absurd ‹_› (hField _)
    · rfl
  have hPrimary : readPrimary [t, u, v, w] = .ok ⟨name "row", [u, v, w], length_lt_cons _ _⟩ := by
    have hFree : isReserved "row" = false := by decide
    rw [readPrimary, hName]
    exact if_neg (by simp [hFree])
  have hSuffixes : readSuffixes (name "row") [u, v, w] =
      .error ⟨.expected "field name after '.'" v.token, v.start⟩ := by
    rw [readSuffixes, if_pos hDot]
    exact bind_eq_error_iff.mpr (.inl hTake)
  have hLevel (level : Nat) : readLevel level [t, u, v, w] =
      .error ⟨.expected "field name after '.'" v.token, v.start⟩ := by
    induction level with
    | zero =>
        rw [readLevel, readUnary, if_neg (by simp [hName]), if_neg (by simp [hName]), readPostfix]
        exact bind_eq_error_iff.mpr (.inr ⟨_, hPrimary, bind_eq_error_iff.mpr (.inl hSuffixes)⟩)
    | succ below ih =>
        rw [readLevel]
        exact bind_eq_error_iff.mpr (.inl ih)
  exact bind_eq_error_iff.mpr (.inl (hLevel Op.maxLevel))

/-- A word behind the name `row` and a point is read as a field, unless it is a constant. -/
theorem ofText_row {now : Date} (hShape : IsNameShaped word)
    (hName : Text.lower word ∉ Token.constantWords) :
    ofText now ("row." ++ word) = .ok (property (name "row") word) := by
  have hField : Token.ofWord word = .identifier word := Token.ofWord_of_ordinary hName
  rw [ofText_eq_ok_iff, Scan.ofText_row hShape, hField]
  exact ⟨rfl, readAll_property rfl rfl rfl rfl⟩

/-- A constant behind the name `row` and a point is a fault. -/
theorem ofText_row_fault {now : Date} (hShape : IsNameShaped word)
    (hConstant : Text.lower word ∈ Token.constantWords) :
    ofText now ("row." ++ word) =
      .error ⟨.expected "field name after '.'" (Token.ofWord word), ⟨1, 5, 4⟩⟩ := by
  have hFault := Token.ofWord_ne_identifier hConstant
  have hPlace : Position.atOffset ("row." ++ word).toList 4 = ⟨1, 5, 4⟩ := by
    rw [String.toList_append]
    rfl
  rw [ofText, Scan.ofText_row hShape, Scan.lexemes?, Except.bind,
    readAll_row_fault rfl rfl hFault, Except.mapError, ReadError.locate, hPlace]

/-- Of the names, exactly those that are no word for a symbol or a constant lead to the field of the row;
the others are a fault at their own place. -/
theorem rowReaches_iff (now : Date) (hShape : IsNameShaped word) :
    (RowReaches now word ↔ Text.lower word ∉ Token.constantWords) ∧
      (Text.lower word ∈ Token.constantWords → ofText now ("row." ++ word) =
        .error ⟨.expected "field name after '.'" (Token.ofWord word), ⟨1, 5, 4⟩⟩) := by
  refine ⟨?_, ofText_row_fault hShape⟩
  constructor
  · rintro ⟨e, hRead, -⟩ hConstant
    rw [ofText_row_fault hShape hConstant] at hRead
    cases hRead
  · intro hName
    exact ⟨_, ofText_row hShape hName, fun c fields hRow => eval_property_row c hRow word⟩

theorem isNameShaped_where : IsNameShaped "where" :=
  ⟨⟨'w', _, rfl, rfl⟩, List.all_eq_true.mp rfl⟩

theorem isNameShaped_and : IsNameShaped "and" :=
  ⟨⟨'a', _, rfl, rfl⟩, List.all_eq_true.mp rfl⟩

/-- A word that begins a clause names a field behind `row.`. -/
theorem rowReaches_where : IsNameShaped "where" ∧ RowReaches ⟨0, 0, 0⟩ "where" :=
  ⟨isNameShaped_where, (rowReaches_iff ⟨0, 0, 0⟩ isNameShaped_where).1.mpr (by decide)⟩

/-- Not every word that is shaped like a name is reached behind `row`. -/
theorem not_rowReaches_of_isNameShaped : ¬∀ now word, IsNameShaped word → RowReaches now word := by
  intro h
  obtain ⟨e, hRead, -⟩ := h ⟨0, 0, 0⟩ "and" isNameShaped_and
  rw [ofText_row_fault isNameShaped_and (by decide)] at hRead
  cases hRead

end Expr

end DocQuery
