import Mathlib.Data.List.DropRight
import DocQuery.Text.Range
import DocQuery.Text.Slice

/-!
What is cut off a text and what is found in it, said without the cutting: a text is trimmed when no blank
stands at either end, and the parts around a separator are those that give the text when they are put
together again.
-/

namespace DocQuery.Text

variable {cs : List Char}

/-- A run of characters of one class ends where a character of no such class begins. -/
theorem span_append {isMember : Char → Bool} {run rest : List Char} (hRun : ∀ c ∈ run, isMember c = true)
    (hRest : ∀ c ∈ rest.head?, isMember c = false) :
    (run ++ rest).takeWhile isMember = run ∧ (run ++ rest).dropWhile isMember = rest := by
  rw [List.takeWhile_append_of_pos hRun, List.dropWhile_append_of_pos hRun]
  cases rest with
  | nil => exact ⟨List.append_nil run, rfl⟩
  | cons c rest =>
      have hStop : ¬ isMember c = true := by simp [hRest c rfl]
      rw [List.takeWhile_cons_of_neg hStop, List.append_nil, List.dropWhile_cons_of_neg hStop]
      exact ⟨rfl, rfl⟩

theorem trim_eq_rdropWhile (cs : List Char) : trim cs = (cs.dropWhile isBlank).rdropWhile isBlank := rfl

/-- A text keeps its ends when no blank is at them. -/
theorem trim_eq_self_iff :
    trim cs = cs ↔ (∀ c ∈ cs.head?, isBlank c = false) ∧ ∀ c ∈ cs.getLast?, isBlank c = false := by
  constructor
  · intro hTrim
    rw [trim_eq_rdropWhile] at hTrim
    have hStart : cs.dropWhile isBlank = cs := by
      refine (List.dropWhile_suffix isBlank).eq_of_length_le ?_
      calc cs.length = ((cs.dropWhile isBlank).rdropWhile isBlank).length := by rw [hTrim]
        _ ≤ (cs.dropWhile isBlank).length := (List.rdropWhile_prefix isBlank _).length_le
    rw [hStart, List.rdropWhile_eq_self_iff] at hTrim
    refine ⟨fun c hHead => ?_, fun c hLast => ?_⟩
    · have hNot := List.head?_dropWhile_not isBlank cs
      rw [hStart, Option.mem_def.mp hHead] at hNot
      exact hNot
    · have hSome : cs ≠ [] := List.ne_nil_of_mem (List.mem_of_getLast? hLast)
      rw [List.getLast?_eq_some_getLast hSome, Option.mem_some] at hLast
      exact hLast ▸ Bool.eq_false_iff.mpr (hTrim hSome)
  · rintro ⟨hHead, hLast⟩
    have hStart : cs.dropWhile isBlank = cs := by
      cases cs with
      | nil => rfl
      | cons c rest => exact List.dropWhile_cons_of_neg (by simp [hHead c rfl])
    rw [trim_eq_rdropWhile, hStart, List.rdropWhile_eq_self_iff]
    intro hSome
    simp [hLast _ (List.getLast_mem_getLast? hSome)]

/-- A text is trimmed when it begins and ends with parts without blanks. -/
theorem trim_of_ends {start ending : List Char} (hStart : start ≠ []) (hEnding : ending ≠ [])
    (hPrefix : start <+: cs) (hSuffix : ending <:+ cs) (hFirst : ∀ c ∈ start, isBlank c = false)
    (hLast : ∀ c ∈ ending, isBlank c = false) : trim cs = cs := by
  refine trim_eq_self_iff.mpr ⟨fun c hHead => ?_, fun c hEnd => ?_⟩
  · rw [List.head?_eq_some_head (hPrefix.ne_nil hStart), ← hPrefix.head hStart, Option.mem_some] at hHead
    exact hFirst c (hHead ▸ List.head_mem hStart)
  · rw [List.getLast?_eq_some_getLast (hSuffix.ne_nil hEnding), ← hSuffix.getLast hEnding,
      Option.mem_some] at hEnd
    exact hLast c (hEnd ▸ List.getLast_mem hEnding)

/-- Trimmed texts around a separator that is no blank are trimmed together. -/
theorem trim_append_cons {xs ys : List Char} {c : Char} (hChar : isBlank c = false)
    (hXs : trim xs = xs) (hYs : trim ys = ys) : trim (xs ++ c :: ys) = xs ++ c :: ys := by
  rw [trim_eq_self_iff] at hXs hYs ⊢
  refine ⟨fun x hHead => ?_, fun x hLast => ?_⟩
  · cases xs with
    | nil =>
        cases hHead
        exact hChar
    | cons y rest => exact hXs.1 x hHead
  · cases ys using List.reverseRecOn with
    | nil =>
        rw [List.getLast?_concat, Option.mem_some] at hLast
        exact hLast ▸ hChar
    | append_singleton rest y =>
        refine hYs.2 x ?_
        rw [← List.cons_append, ← List.append_assoc, List.getLast?_concat] at hLast
        rwa [List.getLast?_concat]

/-- Nothing is left to trim behind a trim. -/
theorem trim_trim (cs : List Char) : trim (trim cs) = trim cs := by
  rw [trim_eq_rdropWhile, trim_eq_rdropWhile cs]
  generalize hStart : cs.dropWhile isBlank = start
  have hEnd := List.rdropWhile_prefix isBlank (l := start)
  generalize hTrimmed : start.rdropWhile isBlank = trimmed at hEnd ⊢
  have hHead : trimmed.dropWhile isBlank = trimmed := by
    obtain ⟨blanks, hBlanks⟩ := hEnd
    cases trimmed with
    | nil => rfl
    | cons c rest =>
        have hNot := List.head?_dropWhile_not isBlank cs
        rw [hStart, ← hBlanks] at hNot
        exact List.dropWhile_cons_of_neg (by simpa using hNot)
  rw [hHead, ← hTrimmed, List.rdropWhile_idempotent]

theorem infix_trim (cs : List Char) : trim cs <:+: cs :=
  (List.rdropWhile_prefix isBlank _).isInfix.trans (List.dropWhile_suffix isBlank).isInfix

/-- A text is not split without a separator. -/
theorem splitFirst?_eq_none_iff {separator : Char} :
    splitFirst? separator cs = none ↔ separator ∉ cs := by
  rw [splitFirst?]
  split
  · next hNone =>
      rw [List.dropWhile_eq_nil_iff] at hNone
      exact iff_of_true rfl fun hMem => by simpa using hNone separator hMem
  · next hSome =>
      refine iff_of_false nofun fun hNot => ?_
      have hNone : cs.dropWhile (· != separator) = [] :=
        List.dropWhile_eq_nil_iff.mpr fun c hMem => bne_iff_ne.mpr (ne_of_mem_of_not_mem hMem hNot)
      rw [hSome] at hNone
      cases hNone

/-- A text is split at its first separator. -/
theorem splitFirst?_append {separator : Char} {before : List Char} (hBefore : separator ∉ before)
    (after : List Char) : splitFirst? separator (before ++ separator :: after) = some (before, after) := by
  have hAll : ∀ c ∈ before, (c != separator) = true := fun c hMem =>
    bne_iff_ne.mpr (ne_of_mem_of_not_mem hMem hBefore)
  rw [splitFirst?, List.dropWhile_append_of_pos hAll, List.takeWhile_append_of_pos hAll]
  simp

/-- The parts of a split, with the separator between them, are the text. -/
theorem splitFirst?_eq_some_iff {separator : Char} {before after : List Char} :
    splitFirst? separator cs = some (before, after) ↔
      cs = before ++ separator :: after ∧ separator ∉ before := by
  constructor
  · intro hSplit
    rw [splitFirst?] at hSplit
    split at hSplit
    · cases hSplit
    · next found rest hDrop =>
        cases hSplit
        have hNot := List.head?_dropWhile_not (· != separator) cs
        rw [hDrop] at hNot
        obtain rfl : found = separator := by simpa using hNot
        refine ⟨?_, fun hMem => by simpa using List.mem_takeWhile_imp hMem⟩
        rw [← hDrop, List.takeWhile_append_dropWhile]
  · rintro ⟨rfl, hBefore⟩
    exact splitFirst?_append hBefore after

theorem afterLast_of_not_mem {separator : Char} (h : separator ∉ cs) : afterLast separator cs = cs := by
  have hAll : ∀ c ∈ cs.reverse, (c != separator) = true := fun c hMem =>
    bne_iff_ne.mpr (ne_of_mem_of_not_mem (List.mem_reverse.mp hMem) h)
  rw [afterLast, List.takeWhile_eq_self_iff.mpr hAll, List.reverse_reverse]

theorem suffix_afterLast (separator : Char) (cs : List Char) : afterLast separator cs <:+ cs :=
  List.reverse_prefix.mp (by rw [afterLast, List.reverse_reverse]; exact List.takeWhile_prefix _)

/-- No separator is left behind the last one. -/
theorem not_mem_afterLast (separator : Char) (cs : List Char) : separator ∉ afterLast separator cs := by
  intro hMem
  have hBefore := List.mem_takeWhile_imp (List.mem_reverse.mp hMem)
  simp at hBefore

/-- The last separator of a text is the first one read from the end. -/
theorem beforeLast?_eq_map (separator : Char) (cs : List Char) :
    beforeLast? separator cs = (splitFirst? separator cs.reverse).map fun parts => parts.2.reverse := by
  rw [beforeLast?, splitFirst?]
  split <;> rfl

theorem beforeLast?_eq_none_iff {separator : Char} : beforeLast? separator cs = none ↔ separator ∉ cs := by
  rw [beforeLast?_eq_map, Option.map_eq_none_iff, splitFirst?_eq_none_iff, List.mem_reverse]

/-- What is before the last separator has only text without separators behind it. -/
theorem beforeLast?_eq_some_iff {separator : Char} {before : List Char} :
    beforeLast? separator cs = some before ↔
      ∃ after, cs = before ++ separator :: after ∧ separator ∉ after := by
  rw [beforeLast?_eq_map, Option.map_eq_some_iff]
  constructor
  · rintro ⟨⟨after, rest⟩, hSplit, rfl⟩
    obtain ⟨hText, hNot⟩ := splitFirst?_eq_some_iff.mp hSplit
    refine ⟨after.reverse, ?_, mt List.mem_reverse.mp hNot⟩
    rw [← cs.reverse_reverse, hText]
    simp
  · rintro ⟨after, rfl, hNot⟩
    refine ⟨(after.reverse, before.reverse), splitFirst?_eq_some_iff.mpr ⟨by simp, ?_⟩, by simp⟩
    exact mt List.mem_reverse.mp hNot

/-- What is left behind a start makes up the text with it. -/
theorem dropStart?_eq_some_iff {start rest : List Char} :
    dropStart? start cs = some rest ↔ cs = start ++ rest := by
  rw [dropStart?]
  split
  · next hStart =>
      obtain ⟨found, rfl⟩ := List.isPrefixOf_iff_prefix.mp hStart
      simp [eq_comm]
  · next hStart =>
      refine iff_of_false nofun fun hText => hStart ?_
      rw [hText, List.isPrefixOf_iff_prefix]
      exact List.prefix_append start rest

/-- What is left before an end makes up the text with it. -/
theorem dropEnd?_eq_some_iff {ending rest : List Char} :
    dropEnd? ending cs = some rest ↔ cs = rest ++ ending := by
  rw [dropEnd?, Option.map_eq_some_iff]
  simp only [dropStart?_eq_some_iff]
  constructor
  · rintro ⟨found, hText, rfl⟩
    rw [← cs.reverse_reverse, hText, List.reverse_append, List.reverse_reverse]
  · rintro rfl
    exact ⟨rest.reverse, List.reverse_append, List.reverse_reverse rest⟩

/-- A text occurs in another when it is a stretch of it. -/
theorem occursIn_iff_infix {needle : List Char} : occursIn needle cs = true ↔ needle <:+: cs := by
  induction cs with
  | nil => rw [occursIn, List.isEmpty_iff, List.infix_nil]
  | cons c rest ih =>
      rw [occursIn, Bool.or_eq_true, ih, List.isPrefixOf_iff_prefix, List.infix_cons_iff]

/-- What holds no separator lies on one side of it. -/
theorem infix_append_cons {needle xs ys : List Char} {separator : Char} (hNot : separator ∉ needle)
    (h : needle <:+: xs ++ separator :: ys) : needle <:+: xs ∨ needle <:+: ys := by
  have hStart {start : List Char} (hPrefix : start <+: separator :: ys) (hNot : separator ∉ start) :
      start = [] := by
    cases start with
    | nil => rfl
    | cons c rest =>
        rw [List.cons_prefix_cons] at hPrefix
        exact absurd (hPrefix.1 ▸ List.mem_cons_self) hNot
  rcases List.infix_append_iff.mp h with hLeft | hRight | ⟨before, after, rfl, hBefore, hAfter⟩
  · exact .inl hLeft
  · rcases List.infix_cons_iff.mp hRight with hPrefix | hRight
    · rw [hStart hPrefix hNot]
      exact .inr (List.nil_infix)
    · exact .inr hRight
  · rw [hStart hAfter fun hMem => hNot (List.mem_append_right _ hMem), List.append_nil]
    exact .inl hBefore.isInfix

theorem cutAt_of_not_mem {separator : Char} (h : separator ∉ cs) : cutAt separator cs = [cs] :=
  List.splitOnP_eq_singleton fun _ hMem => beq_eq_false_iff_ne.mpr (ne_of_mem_of_not_mem hMem h)

/-- The first part of a text that is cut ends at its first separator. -/
theorem cutAt_append {separator : Char} {before : List Char} (hBefore : separator ∉ before)
    (after : List Char) :
    cutAt separator (before ++ separator :: after) = before :: cutAt separator after :=
  List.splitOnP_append_cons_of_forall_mem
    (fun _ hMem => beq_eq_false_iff_ne.mpr (ne_of_mem_of_not_mem hMem hBefore)) separator
    (beq_self_eq_true separator) after

/-- The parts of a text around a separator put it together again. -/
theorem intercalate_cutAt (separator : Char) (cs : List Char) :
    [separator].intercalate (cutAt separator cs) = cs := by
  rw [cutAt, ← List.splitOn_eq_splitOnP]
  exact List.intercalate_splitOn separator

/-- Parts without separators are found again when their text is cut. -/
theorem cutAt_intercalate {separator : Char} {parts : List (List Char)} (hSome : parts ≠ [])
    (hParts : ∀ part ∈ parts, separator ∉ part) : cutAt separator ([separator].intercalate parts) = parts := by
  rw [cutAt, ← List.splitOn_eq_splitOnP]
  exact List.splitOn_intercalate separator hParts hSome

theorem not_mem_intercalate {separator c : Char} (hChar : c ≠ separator) {parts : List (List Char)}
    (hParts : ∀ part ∈ parts, c ∉ part) : c ∉ [separator].intercalate parts := by
  induction parts with
  | nil => exact List.not_mem_nil
  | cons part rest ih =>
      obtain ⟨hPart, hRest⟩ := List.forall_mem_cons.mp hParts
      cases rest with
      | nil => simpa using hPart
      | cons next rest =>
          rw [List.intercalate_cons_cons]
          exact List.not_mem_append (List.not_mem_append hPart (mt List.mem_singleton.mp hChar)) (ih hRest)

end DocQuery.Text
