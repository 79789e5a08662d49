import Mathlib
import DocQuery.Duration.Text
import DocQuery.Proofs.Number.Arithmetic
import DocQuery.Proofs.Text.Class
import DocQuery.Proofs.Text.Slice

/-!
The form of a span for people is a literal of the same span. A segment ends with the letters of its unit
and begins with a sign or a digit, so that the reader cuts the text where the segments were put together.
Every unit has at most one segment, so that nothing is added up but zeros.
-/

namespace DocQuery

open Text

namespace DurationUnit

theorem mem_all (unit : DurationUnit) : unit ∈ all := by
  cases unit <;> decide

/-- A name in the singular or the plural is a spelling of its unit. -/
theorem ofSpelling?_label (unit : DurationUnit) :
    ∀ ending ∈ ["", "s"], ofSpelling? (unit.label ++ ending) = some unit := by
  cases unit <;> decide

/-- A unit is written with letters, in the plural too. -/
theorem isAlphabetic_label (unit : DurationUnit) :
    ∀ ending ∈ ["", "s"], (unit.label ++ ending).toList.all isAlphabetic = true ∧
      unit.label ++ ending ≠ "" := by
  cases unit <;> decide

end DurationUnit

namespace Duration

/-! ### Counts -/

@[simp] theorem count_ofCounts (f : DurationUnit → Number) (unit : DurationUnit) :
    (ofCounts f).count unit = f unit := by
  cases unit <;> rfl

/-- A span is given by its counts. -/
theorem eq_of_count {a b : Duration} (h : ∀ unit, a.count unit = b.count unit) : a = b := by
  cases a
  cases b
  simp only [mk.injEq]
  exact ⟨h .year, h .month, h .week, h .day, h .hour, h .minute, h .second, h .millisecond⟩

@[simp] theorem count_zero (unit : DurationUnit) : zero.count unit = 0 := count_ofCounts _ unit

@[simp] theorem count_single (unit other : DurationUnit) (n : Number) :
    (single unit n).count other = if other = unit then n else 0 := count_ofCounts _ other

@[simp] theorem count_plus (a b : Duration) (unit : DurationUnit) :
    (a.plus b).count unit = a.count unit + b.count unit := count_ofCounts _ unit

def plusAll (total : Duration) (parts : List (DurationUnit × Number)) : Duration :=
  parts.foldl (fun total part => total.plus (single part.1 part.2)) total

/-- Counts of different units that the span does not have yet are taken over as they are. -/
theorem count_plusAll {total : Duration} {parts : List (DurationUnit × Number)}
    (hDistinct : (parts.map Prod.fst).Nodup)
    (hParts : ∀ part ∈ parts, 0 + part.2 = part.2 ∧ part.2 + 0 = part.2)
    (hTotal : ∀ unit, total.count unit + 0 = total.count unit)
    (hNew : ∀ part ∈ parts, total.count part.1 = 0) :
    (∀ part ∈ parts, (total.plusAll parts).count part.1 = part.2) ∧
      ∀ unit ∉ parts.map Prod.fst, (total.plusAll parts).count unit = total.count unit := by
  induction parts generalizing total with
  | nil => exact ⟨List.forall_mem_nil _, fun _ _ => rfl⟩
  | cons part rest ih =>
      obtain ⟨unit, n⟩ := part
      obtain ⟨hPart, hRest⟩ := List.forall_mem_cons.mp hParts
      obtain ⟨hZero, hOthers⟩ := List.forall_mem_cons.mp hNew
      obtain ⟨hOnce, hRestDistinct⟩ := List.nodup_cons.mp hDistinct
      dsimp only at hPart hZero hOnce
      have hHere : (total.plus (single unit n)).count unit = n := by
        rw [count_plus, count_single, if_pos rfl, hZero, hPart.1]
      have hElsewhere {other : DurationUnit} (hOther : other ≠ unit) :
          (total.plus (single unit n)).count other = total.count other := by
        rw [count_plus, count_single, if_neg hOther, hTotal]
      have hStep := @ih (total.plus (single unit n)) hRestDistinct hRest
        (fun other => by
          by_cases hOther : other = unit
          · rw [hOther, hHere, hPart.2]
          · rw [hElsewhere hOther, hTotal])
        (fun other hMem => by
          rw [hElsewhere, hOthers other hMem]
          rintro rfl
          exact hOnce (List.mem_map_of_mem hMem))
      refine ⟨List.forall_mem_cons.mpr ⟨(hStep.2 unit hOnce).trans hHere, hStep.1⟩, fun other hOther => ?_⟩
      rw [List.map_cons, List.mem_cons, not_or] at hOther
      exact (hStep.2 other hOther.2).trans (hElsewhere hOther.1)

/-! ### Segments -/

/-- No digit separates segments. -/
theorem isSeparator_of_isDigit {c : Char} (h : c.isDigit = true) : isSeparator c = false := by
  rw [isSeparator, isBlank_of_isDigit h, Bool.false_or, decide_eq_false_iff_not]
  rintro rfl
  cases h

/-- A count that is not zero is written as a sign and digits that are read as the count. -/
theorem exists_display {n : Number} (hFinite : n.isFinite = true) (hSome : n.isZero = false) :
    ∃ (negative : Bool) (first : Char) (digits : List Char),
      n.display.toList = (if negative then ['-'] else []) ++ first :: digits ∧
      first.isDigit = true ∧ (∀ c ∈ first :: digits, isNumberPart c = true) ∧
      Number.readUnsigned? negative (first :: digits) = some n := by
  cases n with
  | nan => cases hFinite
  | infinity _ => cases hFinite
  | finite negative units fits =>
      obtain ⟨numeral, hDisplay, hNearest⟩ :=
        Number.exists_display_eq negative fits (beq_eq_false_iff_ne.mp hSome)
      obtain ⟨whole, fraction, hSpelled⟩ := numeral.exists_spelled
      obtain ⟨first, more, rfl⟩ := List.exists_cons_of_ne_nil hSpelled.begins
      have hRead := Number.readUnsigned?_spelled negative hSpelled hNearest fits
      have hSign : (Number.signText negative).toList = if negative then ['-'] else [] := by
        cases negative <;> rfl
      have hPart : ∀ c : Char, c.isDigit = true → isNumberPart c = true := fun c hDigit => by
        rw [isNumberPart, hDigit, Bool.true_or]
      rw [hSpelled.text, List.cons_append] at hRead
      refine ⟨negative, first, _, ?_, hSpelled.wholeDigits _ List.mem_cons_self, ?_, hRead⟩
      · rw [hDisplay, String.toList_append, hSign, hSpelled.text, List.cons_append]
      · intro c hMem
        rw [← List.cons_append, List.mem_append] at hMem
        rcases hMem with hWhole | hFraction
        · exact hPart c (hSpelled.wholeDigits c hWhole)
        · split at hFraction
          · cases hFraction
          · rcases List.mem_cons.mp hFraction with rfl | hFraction
            · rfl
            · exact hPart c (hSpelled.fractionDigits c hFraction)

/-- The sign in front of digits is split off. -/
theorem readSegment?_signed {negative : Bool} {first : Char} (hFirst : first.isDigit = true)
    (cs : List Char) :
    readSegment? ((if negative then ['-'] else []) ++ first :: cs) = do
      let number ← Number.readUnsigned? negative ((first :: cs).takeWhile isNumberPart)
      let rest := trimStart ((first :: cs).dropWhile isNumberPart)
      let unit ← DurationUnit.ofSpelling? (String.ofList (rest.takeWhile isAlphabetic))
      return (single unit number, rest.dropWhile isAlphabetic) := by
  unfold readSegment?
  split
  next read unsigned hSigns =>
  have hSplit : (negative, first :: cs) = (read, unsigned) := by
    rw [← hSigns]
    cases negative with
    | true => rfl
    | false =>
        rw [if_neg Bool.false_ne_true, List.nil_append]
        split
        · next hMinus =>
            rw [(List.cons.inj hMinus).1] at hFirst
            cases hFirst
        · next hPlus =>
            rw [(List.cons.inj hPlus).1] at hFirst
            cases hFirst
        · rfl
  obtain ⟨rfl, rfl⟩ := Prod.mk.inj hSplit
  with_reducible rfl

/-- A segment is a count, a blank and a spelling of the unit. -/
theorem exists_segmentText_eq (unit : DurationUnit) (n : Number) :
    ∃ word, (segmentText unit n).toList = n.display.toList ++ ' ' :: word ∧ word ≠ [] ∧
      (∀ c ∈ word, isAlphabetic c = true) ∧
      DurationUnit.ofSpelling? (String.ofList word) = some unit := by
  obtain ⟨ending, hEnding, hText⟩ : ∃ ending ∈ ["", "s"],
      segmentText unit n = n.display ++ " " ++ (unit.label ++ ending) := by
    rw [segmentText, String.append_assoc]
    split
    · exact ⟨"", by simp, rfl⟩
    · exact ⟨"s", by simp, rfl⟩
  obtain ⟨hLetters, hWord⟩ := unit.isAlphabetic_label ending hEnding
  have hBlank : " ".toList = [' '] := rfl
  refine ⟨(unit.label ++ ending).toList, ?_, ?_, List.all_eq_true.mp hLetters, ?_⟩
  · rw [hText, String.toList_append, String.toList_append, hBlank, List.append_assoc,
      List.singleton_append]
  · rwa [Ne, String.toList_eq_nil_iff]
  · rw [String.ofList_toList]
    exact unit.ofSpelling?_label ending hEnding

/-- A segment begins where no separator stands, ends with a letter, and is read up to that letter. -/
structure IsSegment (part : DurationUnit × Number) (cs : List Char) : Prop where
  starts : ∃ first more, cs = first :: more ∧ isSeparator first = false
  ends : ∃ before letter, cs = before ++ [letter] ∧ isAlphabetic letter = true
  reads : ∀ rest, (∀ c ∈ rest.head?, isAlphabetic c = false) →
    readSegment? (cs ++ rest) = some (single part.1 part.2, rest)

/-- A count that is written with its unit is a segment of a literal. -/
theorem isSegment_segmentText (unit : DurationUnit) {n : Number} (hFinite : n.isFinite = true)
    (hSome : n.isZero = false) : IsSegment (unit, n) (segmentText unit n).toList := by
  obtain ⟨negative, first, digits, hDisplay, hFirst, hDigits, hRead⟩ := exists_display hFinite hSome
  obtain ⟨word, hText, hWord, hLetters, hSpelling⟩ := exists_segmentText_eq unit n
  rw [hText, hDisplay, List.append_assoc, List.cons_append]
  constructor
  · cases negative with
    | true => exact ⟨'-', _, rfl, rfl⟩
    | false => exact ⟨first, _, rfl, isSeparator_of_isDigit hFirst⟩
  · refine ⟨(if negative then ['-'] else []) ++ first :: (digits ++ ' ' :: word.dropLast),
      word.getLast hWord, ?_, hLetters _ (List.getLast_mem hWord)⟩
    simp [List.dropLast_append_getLast hWord]
  · intro rest hRest
    obtain ⟨letter, letters, rfl⟩ := List.exists_cons_of_ne_nil hWord
    obtain ⟨hNumber, hBehind⟩ := @span_append isNumberPart (first :: digits)
      (' ' :: (letter :: letters ++ rest)) hDigits (by rintro _ ⟨⟩; rfl)
    obtain ⟨hUnit, hEnd⟩ := span_append hLetters hRest
    have hTrim : trimStart (' ' :: (letter :: letters ++ rest)) = letter :: letters ++ rest := by
      have hLetter := isBlank_of_isAlphabetic (hLetters letter List.mem_cons_self)
      rw [trimStart, List.dropWhile_cons_of_pos rfl, List.cons_append,
        List.dropWhile_cons_of_neg (by simp [hLetter])]
    rw [List.append_assoc, List.cons_append, List.append_assoc, List.cons_append,
      readSegment?_signed hFirst, ← List.cons_append]
    dsimp only
    rw [hNumber, hBehind, hTrim, hUnit, hEnd, hRead, hSpelling]
    rfl

/-! ### Whole texts -/

/-- A text of segments begins and ends as its segments do. -/
theorem ends_intercalate {parts : List (DurationUnit × Number)} {texts : List (List Char)}
    (h : List.Forall₂ IsSegment parts texts) (hSome : parts ≠ []) :
    (∃ first more, [',', ' '].intercalate texts = first :: more ∧ isSeparator first = false) ∧
      ∃ before letter, [',', ' '].intercalate texts = before ++ [letter] ∧
        isAlphabetic letter = true := by
  induction h with
  | nil => exact absurd rfl hSome
  | @cons part text parts texts hPart hRest ih =>
      obtain ⟨first, more, hText, hFirst⟩ := hPart.starts
      cases hRest with
      | nil =>
          rw [List.intercalate_singleton]
          exact ⟨hPart.starts, hPart.ends⟩
      | cons _ _ =>
          obtain ⟨before, letter, hEnds, hLetter⟩ := (ih (List.cons_ne_nil _ _)).2
          rw [List.intercalate_cons_cons, hEnds, hText]
          exact ⟨⟨first, _, rfl, hFirst⟩, _, letter, (List.append_assoc ..).symm, hLetter⟩

/-- Segments with commas between them are read one by one. -/
theorem readSegments?_intercalate {parts : List (DurationUnit × Number)} {texts : List (List Char)}
    (h : List.Forall₂ IsSegment parts texts) (total : Duration) :
    readSegments? total ([',', ' '].intercalate texts) = some (total.plusAll parts) := by
  induction h generalizing total with
  | nil => rw [readSegments?]; rfl
  | @cons part text parts texts hPart hRest ih =>
      obtain ⟨first, more, hText, hFirst⟩ := hPart.starts
      have hStep {rest : List Char} (hStop : ∀ c ∈ rest.head?, isAlphabetic c = false) :
          readSegments? total (text ++ rest) =
            readSegments? (total.plus (single part.1 part.2)) (rest.dropWhile isSeparator) := by
        have hShorter : rest.length < (text ++ rest).length := by
          rw [hText, List.length_append, List.length_cons]
          omega
        have hSome : (text ++ rest).isEmpty = false := by
          rw [hText]
          rfl
        rw [readSegments?, hSome, if_neg Bool.false_ne_true]
        simp only [hPart.reads rest hStop]
        rw [dif_pos hShorter]
      cases hRest with
      | nil =>
          have hLast := @hStep [] (by simp)
          rw [List.append_nil] at hLast
          rw [List.intercalate_singleton, hLast, List.dropWhile_nil]
          exact ih _
      | cons hNext hOthers =>
          obtain ⟨c, others, hStart, hSeparator⟩ :=
            (ends_intercalate (.cons hNext hOthers) (List.cons_ne_nil _ _)).1
          have hSkip : ([',', ' '] ++ c :: others).dropWhile isSeparator = c :: others := by
            rw [List.cons_append, List.singleton_append, List.dropWhile_cons_of_pos rfl,
              List.dropWhile_cons_of_pos rfl, List.dropWhile_cons_of_neg (by simp [hSeparator])]
          rw [List.intercalate_cons_cons, List.append_assoc, hStep (by rintro _ ⟨⟩; rfl), hStart, hSkip,
            ← hStart]
          exact ih _

/-- Segments with commas between them are read as the sum of their counts. -/
theorem ofLiteral?_intercalate {parts : List (DurationUnit × Number)} {text : String}
    {texts : List (List Char)} (h : List.Forall₂ IsSegment parts texts) (hSome : parts ≠ [])
    (hText : text.toList = [',', ' '].intercalate texts) :
    ofLiteral? text = some (zero.plusAll parts) := by
  obtain ⟨⟨first, more, hStart, hFirst⟩, before, letter, hEnd, hLetter⟩ := ends_intercalate h hSome
  have hTrim : trim text.toList = text.toList := by
    rw [trim_eq_self_iff, hText]
    refine ⟨fun c hHead => ?_, fun c hLast => ?_⟩
    · rw [hStart, List.head?_cons, Option.mem_some] at hHead
      rw [isSeparator, Bool.or_eq_false_iff] at hFirst
      exact hHead ▸ hFirst.1
    · rw [hEnd, List.getLast?_concat, Option.mem_some] at hLast
      exact hLast ▸ isBlank_of_isAlphabetic hLetter
  have hSkip : (trim text.toList).dropWhile isSeparator = [',', ' '].intercalate texts := by
    rw [hTrim, hText, hStart, List.dropWhile_cons_of_neg (by simp [hFirst])]
  have hNotEmpty : ([',', ' '].intercalate texts).isEmpty = false := by
    rw [hStart]
    rfl
  rw [ofLiteral?, hSkip, hNotEmpty, if_neg Bool.false_ne_true, readSegments?_intercalate h]

theorem zero_add_zero : (0 : Number) + 0 = 0 := by
  have hFinite : (0 : Number).isFinite = true := by
    rw [Number.zero_eq]
    rfl
  rw [Number.zero_add_of_isFinite hFinite, Number.zero_eq]
  rfl

/-- The empty span is written as no seconds, which is the one count of zero in any text. -/
theorem ofLiteral?_zero : ofLiteral? "0 seconds" = some zero := by
  have hText : (trim "0 seconds".toList).dropWhile isSeparator = "0 seconds".toList := by decide
  have hRead : readSegment? "0 seconds".toList = some (single .second (.signedZero false), []) := rfl
  have hSum : zero.plus (single .second (.signedZero false)) = zero := by
    refine eq_of_count fun unit => ?_
    rw [count_plus, count_single, count_zero, ← Number.zero_eq, ite_self, zero_add_zero]
  rw [ofLiteral?, hText, if_neg (by decide), readSegments?, if_neg (by decide)]
  simp only [hRead]
  rw [dif_pos (by decide), hSum, List.dropWhile_nil, readSegments?]
  rfl

/-- The units that are written are those whose counts are not zero. -/
theorem mem_nonzero {d : Duration} {unit : DurationUnit} {n : Number} :
    (unit, n) ∈ d.nonzero ↔ d.count unit = n ∧ n.isZero = false := by
  rw [nonzero, List.mem_filter, List.mem_map]
  constructor
  · rintro ⟨⟨other, _, hEq⟩, hSome⟩
    obtain ⟨rfl, rfl⟩ := Prod.mk.inj hEq
    exact ⟨rfl, by simpa using hSome⟩
  · rintro ⟨rfl, hSome⟩
    exact ⟨⟨unit, unit.mem_all, rfl⟩, by simpa using hSome⟩

theorem nodup_nonzero (d : Duration) : (d.nonzero.map Prod.fst).Nodup := by
  have hUnits : ((DurationUnit.all.map fun unit => (unit, d.count unit)).map Prod.fst).Nodup := by
    rw [List.map_map]
    exact (by decide : DurationUnit.all.Nodup)
  exact hUnits.sublist (List.filter_sublist.map Prod.fst)

/-- The counts that are not zero add up to the span, but for the signs of zeros. -/
theorem plusAll_nonzero {d : Duration} (hFinite : ∀ unit, (d.count unit).isFinite = true) :
    zero.plusAll d.nonzero = ofCounts fun unit => (d.count unit).dropZeroSign := by
  have hParts : ∀ part ∈ d.nonzero, 0 + part.2 = part.2 ∧ part.2 + 0 = part.2 := by
    rintro ⟨unit, n⟩ hMem
    obtain ⟨rfl, hSome⟩ := mem_nonzero.mp hMem
    have hSame : (d.count unit).dropZeroSign = d.count unit := by
      rw [Number.dropZeroSign, hSome, if_neg Bool.false_ne_true]
    exact ⟨(Number.zero_add_of_isFinite (hFinite unit)).trans hSame,
      (Number.add_zero_of_isFinite (hFinite unit)).trans hSame⟩
  obtain ⟨hThere, hElsewhere⟩ := count_plusAll d.nodup_nonzero hParts
    (fun unit => by rw [count_zero, zero_add_zero]) (fun part _ => count_zero part.1)
  refine eq_of_count fun unit => ?_
  rw [count_ofCounts, Number.dropZeroSign]
  split
  · next hNone =>
      rw [hElsewhere unit, count_zero, Number.zero_eq]
      intro hMem
      obtain ⟨⟨other, n⟩, hPart, rfl⟩ := List.mem_map.mp hMem
      obtain ⟨rfl, hSome⟩ := mem_nonzero.mp hPart
      rw [hSome] at hNone
      cases hNone
  · next hSome => exact hThere (unit, _) (mem_nonzero.mpr ⟨rfl, Bool.eq_false_of_not_eq_true hSome⟩)

/-- The form for people reads back as the span, with zero for negative zero. -/
theorem ofLiteral?_render {d : Duration} (hFinite : ∀ unit, (d.count unit).isFinite = true) :
    ofLiteral? d.render = some (ofCounts fun unit => (d.count unit).dropZeroSign) := by
  rw [← plusAll_nonzero hFinite, render]
  split
  · next hNone =>
      rw [hNone]
      exact ofLiteral?_zero
  · next hSome =>
      have hSegments : List.Forall₂ IsSegment d.nonzero
          (d.nonzero.map fun part => (segmentText part.1 part.2).toList) := by
        rw [List.forall₂_map_right_iff, List.forall₂_same]
        rintro ⟨unit, n⟩ hMem
        obtain ⟨rfl, hCount⟩ := mem_nonzero.mp hMem
        exact isSegment_segmentText unit (hFinite unit) hCount
      refine ofLiteral?_intercalate hSegments hSome ?_
      rw [String.toList_intercalate, List.map_map]
      rfl

/-- A span with a negative count, a fraction, a negative zero and a count that is not shown as an integer. -/
def mixedSpan : Duration where
  years := Number.ofInt (-1)
  months := Number.ofInt (-5) / Number.ofNat (Nat.pow 10 1)
  weeks := Number.signedZero true
  days := Number.ofNat (10 ^ 18)
  hours := Number.ofNat 0
  minutes := Number.ofNat 90
  seconds := Number.ofNat 0
  milliseconds := Number.ofNat 1

/-- All counts of the span are finite, the negative zero among them. -/
theorem isFinite_count_mixedSpan (unit : DurationUnit) : (mixedSpan.count unit).isFinite = true := by
  cases unit <;> simp only [count, mixedSpan]
  case year => exact Number.isFinite_ofInt (by decide)
  case month =>
      exact Number.isFinite_div (Number.isFinite_ofInt (by decide)) (Number.exists_ofNat_ten_pow (by decide))
  case week => rfl
  case day => exact Number.isFinite_ofNat (by decide)
  case hour => exact Number.isFinite_ofNat (by decide)
  case minute => exact Number.isFinite_ofNat (by decide)
  case second => exact Number.isFinite_ofNat (by decide)
  case millisecond => exact Number.isFinite_ofNat (by decide)

/-- A span with a negative zero and with more than one unit is read back. -/
theorem ofLiteral?_render_mixedSpan :
    (∀ unit, (mixedSpan.count unit).isFinite = true) ∧
      ofLiteral? mixedSpan.render = some (ofCounts fun unit => (mixedSpan.count unit).dropZeroSign) :=
  ⟨isFinite_count_mixedSpan, ofLiteral?_render isFinite_count_mixedSpan⟩

end Duration

end DocQuery
