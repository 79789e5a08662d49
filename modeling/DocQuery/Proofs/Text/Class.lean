import DocQuery.Text.Class

/-!
Facts about character classes. What a table contains lies in one of its runs, so that two classes are
kept apart by looking at the runs of the smaller one.
-/

namespace DocQuery.Text

/-- The entry that is found holds the code point. -/
theorem searchRuns_eq_some {α : Type} {runs : Array α} {range : α → CodeRange} {code fuel low high : Nat}
    {run : α} (h : searchRuns runs range code fuel low high = some run) :
    run ∈ runs ∧ (range run).first ≤ code ∧ code ≤ (range run).last := by
  induction fuel generalizing low high with
  | zero => cases h
  | succ fuel ih =>
      rw [searchRuns] at h
      split at h
      · dsimp only at h
        split at h
        · cases h
        · next found hFound =>
            split at h
            · exact ih h
            · next hFirst =>
                split at h
                · exact ih h
                · next hLast =>
                    cases h
                    exact ⟨Array.mem_of_getElem? hFound, Nat.le_of_not_lt hFirst,
                      Nat.le_of_not_lt hLast⟩
      · cases h

/-- A character of a table lies in one of its runs. -/
theorem exists_run_of_contains {table : RangeTable} {c : Char} (h : table.contains c = true) :
    ∃ run ∈ table.toList, run.first ≤ c.toNat ∧ c.toNat ≤ run.last := by
  obtain ⟨run, hRun⟩ := Option.isSome_iff_exists.mp h
  obtain ⟨hMem, hWithin⟩ := searchRuns_eq_some hRun
  exact ⟨run, Array.mem_toList_iff.mpr hMem, hWithin⟩

/-- Whether a table contains no code point of some runs. -/
def RangeTable.avoids (table : RangeTable) (runs : List CodeRange) : Bool :=
  runs.all fun run =>
    (List.range' run.first (run.last + 1 - run.first)).all fun code => !table.contains (Char.ofNat code)

/-- Tables without a common code point share no character. -/
theorem RangeTable.contains_of_avoids {table other : RangeTable}
    (hAvoids : table.avoids other.toList = true) {c : Char} (hOther : other.contains c = true) :
    table.contains c = false := by
  obtain ⟨run, hRun, hFirst, hLast⟩ := exists_run_of_contains hOther
  have hCode : c.toNat ∈ List.range' run.first (run.last + 1 - run.first) :=
    List.mem_range'_1.mpr ⟨hFirst, by omega⟩
  have hNot := List.all_eq_true.mp (List.all_eq_true.mp hAvoids run hRun) c.toNat hCode
  rwa [Char.ofNat_toNat, Bool.not_eq_true'] at hNot

/-- What holds of the characters of a text holds of the text put together from them. Long literals are
taken apart in this way, because decoding them costs more than all that is done with their characters. -/
theorem of_ofList {P : List Char → Prop} {cs : List Char} (h : P cs) : P (String.ofList cs).toList := by
  rwa [String.toList_ofList]

/-- The runs that are written in some characters. -/
def RangeTable.ofChars (cs : List Char) : RangeTable :=
  (((cs.splitOnP fun c => c == ' ' || c == '\n').filter (!·.isEmpty)).map CodeRange.ofText).toArray

section Tables

set_option maxRecDepth 40000

/-- No blank is a letter or a number. -/
theorem avoids_blank :
    ∀ table ∈ [Table.alphabetic, Table.categoryNd, Table.categoryNl, Table.categoryNo],
      table.avoids Table.blank.toList = true := by
  unfold Table.alphabetic Table.categoryNd Table.categoryNl Table.categoryNo RangeTable.ofText words
  have hText := @of_ofList (fun cs => (RangeTable.ofChars cs).avoids Table.blank.toList = true)
  refine List.forall_mem_cons.mpr ⟨hText ?_, List.forall_mem_cons.mpr ⟨hText ?_,
    List.forall_mem_cons.mpr ⟨hText ?_, List.forall_mem_singleton.mpr (hText ?_)⟩⟩⟩
  all_goals decide +kernel

end Tables

/-- What holds of the first 128 code points holds of their characters. -/
theorem forall_ascii {P : Char → Prop} (h : ∀ code < 128, P (Char.ofNat code)) (c : Char)
    (hAscii : c.toNat < 128) : P c := by
  rw [← Char.ofNat_toNat c]
  exact h _ hAscii

/-- A character beyond the first 128 is not blank if its table avoids the blanks. -/
theorem isBlank_of_contains {table : RangeTable} (hAvoids : table.avoids Table.blank.toList = true)
    {c : Char} (hAscii : ¬c.toNat < 128) (h : table.contains c = true) : isBlank c = false := by
  rw [isBlank, if_neg hAscii, ← Bool.not_eq_true]
  intro hBlank
  rw [RangeTable.contains_of_avoids hAvoids hBlank] at h
  cases h

theorem isBlank_of_isAlphabetic {c : Char} (h : isAlphabetic c = true) : isBlank c = false := by
  by_cases hAscii : c.toNat < 128
  · revert h
    exact forall_ascii (P := fun c => isAlphabetic c = true → isBlank c = false) (by decide) c
      hAscii
  · rw [isAlphabetic, if_neg hAscii] at h
    exact isBlank_of_contains (avoids_blank _ (by simp)) hAscii h

theorem toNat_lt_of_isDigit {c : Char} (h : c.isDigit = true) : c.toNat < 128 :=
  Nat.lt_of_le_of_lt (Char.isDigit_iff_toNat.mp h).2 (by decide)

theorem isBlank_of_isDigit {c : Char} (h : c.isDigit = true) : isBlank c = false := by
  exact forall_ascii (P := fun c => c.isDigit = true → isBlank c = false) (by decide) c
    (toNat_lt_of_isDigit h) h

theorem isBlank_of_isNumeric {c : Char} (h : isNumeric c = true) : isBlank c = false := by
  by_cases hAscii : c.toNat < 128
  · rw [isNumeric, if_pos hAscii] at h
    exact isBlank_of_isDigit h
  · rw [isNumeric, if_neg hAscii, Bool.or_eq_true, Bool.or_eq_true] at h
    rcases h with (hNd | hNl) | hNo
    · exact isBlank_of_contains (avoids_blank _ (by simp)) hAscii hNd
    · exact isBlank_of_contains (avoids_blank _ (by simp)) hAscii hNl
    · exact isBlank_of_contains (avoids_blank _ (by simp)) hAscii hNo

theorem isBlank_of_isAlphanumeric {c : Char} (h : isAlphanumeric c = true) : isBlank c = false :=
  (Bool.or_eq_true_iff.mp h).elim isBlank_of_isAlphabetic isBlank_of_isNumeric

end DocQuery.Text
