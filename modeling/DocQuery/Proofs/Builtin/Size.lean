import DocQuery.Proofs.Eval.Comparison
import DocQuery.Proofs.Number.Whole

/-!
Texts that are made longer stay within the limit. Repetition divides the limit by the size of the text and
compares the quotient with the count, which is exact; padding allows four bytes for each character of the
width, which is enough for every character.
-/

namespace DocQuery

/-- A text has at most four bytes for each of its characters. -/
theorem utf8ByteSize_le_four_mul_length (s : String) : s.utf8ByteSize ≤ 4 * s.length := by
  have hChars (cs : List Char) : String.utf8Len cs ≤ 4 * cs.length := by
    induction cs with
    | nil => rfl
    | cons c cs ih =>
        have hChar := c.utf8Size_le_four
        rw [String.utf8Len_cons, List.length_cons]
        omega
  have hSize := hChars s.toList
  rwa [← String.utf8ByteSize_ofList, String.ofList_toList, String.length_toList] at hSize

def copies (count : Nat) (text : String) : String := String.join (List.replicate count text)

/-- Copies take their size so many times over. -/
theorem utf8ByteSize_copies (count : Nat) (text : String) :
    (copies count text).utf8ByteSize = count * text.utf8ByteSize := by
  induction count with
  | zero => simp [copies]
  | succ count ih =>
      have hNext : copies (count + 1) text = text ++ copies count text := by
        rw [← String.toList_inj]
        simp [copies, List.replicate_succ]
      rw [hNext, String.utf8ByteSize_append, ih]
      ring

namespace Number

/-- The whole part of a finite number is the quotient of its signed units. -/
theorem toInt?_eq_some_iff {n : Number} {count : Int} :
    n.toInt? = some count ↔ n.isFinite = true ∧ n.rank.tdiv unitsPerOne = count := by
  have hQuotient (negative : Bool) (units : Nat) :
      (signedUnits negative units).tdiv unitsPerOne = signedUnits negative (units / unitsPerOne) := by
    cases negative with
    | false => exact (Int.ofNat_tdiv units unitsPerOne).symm
    | true => exact (Int.neg_tdiv _ _).trans (congrArg Neg.neg (Int.ofNat_tdiv units unitsPerOne).symm)
  cases n with
  | nan => exact iff_of_false nofun nofun
  | infinity _ => exact iff_of_false nofun nofun
  | finite negative units fits =>
      rw [toInt?, rank, hQuotient, Option.some_inj]
      exact (and_iff_right rfl).symm

theorem rank_lt_of_less {a b : Number} (h : a.less b = true) : a.rank < b.rank := by
  rw [less, Bool.and_eq_true, decide_eq_true_iff] at h
  exact h.2

theorem rank_ofNat {count : Nat} (h : count ≤ 2 ^ 53) : (ofNat count).rank = count * unitsPerOne :=
  (denotes_ofNat (representable_whole h)).rank

/-- The whole part of what is not positive is not positive. -/
theorem tdiv_nonpos {rank : Int} (h : rank ≤ 0) : rank.tdiv unitsPerOne ≤ 0 := by
  rw [← Int.neg_nonneg, ← Int.neg_tdiv]
  exact Int.tdiv_nonneg (Int.neg_nonneg_of_nonpos h) (Int.natCast_nonneg _)

/-- A number below one has no positive whole part. -/
theorem toInt?_le_zero_of_less {n : Number} {count : Int} (hCount : n.toInt? = some count)
    (hLess : n.less 1 = true) : count ≤ 0 := by
  have hRank := rank_lt_of_less hLess
  rw [ofNat_eq, rank_ofNat (by decide), Nat.cast_one, Int.one_mul] at hRank
  obtain ⟨-, rfl⟩ := toInt?_eq_some_iff.mp hCount
  rcases Int.le_total 0 n.rank with hPositive | hNegative
  · exact (Int.tdiv_eq_zero_of_lt hPositive hRank).le
  · exact tdiv_nonpos hNegative

/-- The whole part of a finite number that is not above a whole number is not above it either. -/
theorem tdiv_le_of_not_less {n : Number} {limit : Nat} (hFinite : n.isFinite = true) (hLimit : limit ≤ 2 ^ 53)
    (hLess : (ofNat limit).less n = false) : n.rank.tdiv unitsPerOne ≤ limit := by
  have hNumber : n.isNan = false := by
    cases n <;> first | rfl | cases hFinite
  have hRank : n.rank ≤ limit * unitsPerOne := by
    rw [less, hNumber, (denotes_ofNat (representable_whole hLimit)).isNan, rank_ofNat hLimit] at hLess
    exact Int.not_lt.mp (of_decide_eq_false hLess)
  have hPos : (0 : Int) < unitsPerOne := Int.natCast_pos.mpr Numeral.unitsPerOne_pos
  rcases Int.le_total 0 n.rank with hPositive | hNegative
  · rw [Int.tdiv_eq_ediv_of_nonneg hPositive]
    exact Int.ediv_le_of_le_mul hPos hRank
  · exact (tdiv_nonpos hNegative).trans (Int.natCast_nonneg limit)

end Number

namespace Operators

/-- A text is repeated as often as the whole part of a finite number says, if there is room for that. -/
theorem repeatText_of_toInt? (text : String) {n : Number} {count : Int} (hCount : n.toInt? = some count) :
    repeatText text n =
      if (copies count.toNat text).utf8ByteSize ≤ textLimit then .ok (copies count.toNat text)
      else .error .textTooLong := by
  have hFinite := (Number.toInt?_eq_some_iff.mp hCount).1
  by_cases hNothing : n.less 1 = true ∨ text.isEmpty = true
  · have hEmpty : copies count.toNat text = "" := by
      rw [← String.utf8ByteSize_eq_zero_iff, utf8ByteSize_copies, Nat.mul_eq_zero]
      rcases hNothing with hLess | hText
      · exact .inl (Int.toNat_of_nonpos (Number.toInt?_le_zero_of_less hCount hLess))
      · exact .inr (String.utf8ByteSize_eq_zero_iff.mpr (String.isEmpty_iff.mp hText))
    have hRepeat : repeatText text n = .ok "" := by
      rw [repeatText, hFinite]
      exact if_pos (by simpa using hNothing)
    rw [hRepeat, hEmpty]
    rfl
  · have hSize : 0 < text.utf8ByteSize := by
      rw [Nat.pos_iff_ne_zero, Ne, String.utf8ByteSize_eq_zero_iff, ← String.isEmpty_iff]
      exact fun h => hNothing (.inr h)
    have hRoom : (textLimit : Int) / text.utf8ByteSize < count ↔
        ¬(copies count.toNat text).utf8ByteSize ≤ textLimit := by
      rw [utf8ByteSize_copies, Nat.not_le, ← Nat.div_lt_iff_lt_mul hSize, Int.lt_toNat, Int.natCast_ediv]
    rw [repeatText, hFinite, if_neg (by simpa using hNothing), hCount]
    simp only [hRoom, ite_not]
    rfl

/-- What is not finite repeats nothing. -/
theorem repeatText_of_not_finite (text : String) {n : Number} (h : n.isFinite = false) :
    repeatText text n = .ok "" := by
  rw [repeatText, h]
  rfl

end Operators

namespace Number

/-- A finite number asks for as many things as its whole part says, if that is not too much for a count. -/
theorem toCount_eq {n : Number} {count : Int} (hCount : n.toInt? = some count) (hSmall : count < Nat.pow 2 64) :
    n.toCount = count.toNat := by
  cases n with
  | nan => cases hCount
  | infinity _ => cases hCount
  | finite negative units fits =>
      cases hCount
      cases negative with
      | true => exact (Int.toNat_of_nonpos (Int.neg_nonpos_of_nonneg (Int.natCast_nonneg _))).symm
      | false => exact Nat.min_eq_left (Nat.le_sub_one_of_lt (Int.ofNat_lt.mp hSmall))

theorem toCount_of_not_finite {n : Number} (h : n.isFinite = false) : n.toCount = 0 := by
  cases n <;> first | rfl | cases h

end Number

namespace Builtin

/-- So many copies of a list go through its elements over and over. -/
theorem getElem?_flatten_replicate {α : Type} (xs : List α) {copies i : Nat} (h : i < copies * xs.length) :
    (List.replicate copies xs).flatten[i]? = xs[i % xs.length]? := by
  induction copies generalizing i with
  | zero =>
      rw [Nat.zero_mul] at h
      exact absurd h (Nat.not_lt_zero i)
  | succ copies ih =>
      rw [List.replicate_succ, List.flatten_cons]
      rcases Nat.lt_or_ge i xs.length with hFirst | hLater
      · rw [List.getElem?_append_left hFirst, Nat.mod_eq_of_lt hFirst]
      · rw [Nat.succ_mul] at h
        rw [List.getElem?_append_right hLater, ih (by omega), ← Nat.mod_eq_sub_mod hLater]

/-- The characters that fill a width are those of the padding, over and over. -/
theorem getElem?_fillWith {padding : List Char} {count i : Nat} (hPadding : padding ≠ []) (h : i < count) :
    (fillWith padding count)[i]? = padding[i % padding.length]? := by
  have hPos := List.length_pos_of_ne_nil hPadding
  have hEnough : count < (count / padding.length + 1) * padding.length := by
    rw [Nat.mul_comm]
    exact Nat.lt_mul_div_succ count hPos
  rw [fillWith, List.getElem?_take_of_lt h, getElem?_flatten_replicate padding (h.trans hEnough)]

theorem length_fillWith {padding : List Char} (hPadding : padding ≠ []) (count : Nat) :
    (fillWith padding count).length = count := by
  have hPos := List.length_pos_of_ne_nil hPadding
  have hEnough : count < (count / padding.length + 1) * padding.length := by
    rw [Nat.mul_comm]
    exact Nat.lt_mul_div_succ count hPos
  rw [fillWith, List.length_take, List.length_flatten, List.map_replicate, List.sum_replicate_nat]
  exact Nat.min_eq_left hEnough.le

theorem fillWith_zero (padding : List Char) : fillWith padding 0 = [] := List.take_zero

/-- What padding a text to a width answers: a failure for a width beyond the limit, else the text itself when
there is nothing to add, else the text beside a filling that brings it to the width. -/
inductive Padded (text padding : String) (width : Number) (beside : String → String) :
    Outcome Value → Prop where
  | tooWide (hFinite : width.isFinite = true) (hWide : padLimit.less width = true) :
      Padded text padding width beside (.error .textTooLong)
  | unchanged (hWithin : width.isFinite = true → padLimit.less width = false)
      (hNothing : padding = "" ∨ width.toCount ≤ text.length) :
      Padded text padding width beside (.ok (.string text))
  | filled (fill : String) (hWithin : padLimit.less width = false)
      (hFill : ∀ i < fill.length, fill.toList[i]? = padding.toList[i % padding.length]?)
      (hWidth : width.toInt? = some ((beside fill).length : Int))
      (hSize : (beside fill).utf8ByteSize ≤ textLimit) :
      Padded text padding width beside (.ok (.string (beside fill)))

section Padded

variable {text padding : String} {width : Number} {beside : String → String}

/-- Beyond the limit padding fails. -/
theorem Padded.eq_error {answer : Outcome Value} (h : Padded text padding width beside answer)
    (hFinite : width.isFinite = true) (hWide : padLimit.less width = true) : answer = .error .textTooLong := by
  cases h with
  | tooWide => rfl
  | unchanged hWithin => cases hWide.symm.trans (hWithin hFinite)
  | filled _ hWithin => cases hWide.symm.trans hWithin

/-- Within the limit the missing characters are filled in. -/
theorem Padded.eq_fill {answer : Outcome Value} {count : Nat} (h : Padded text padding width beside answer)
    (hLength : ∀ fill, (beside fill).length = fill.length + text.length)
    (hCount : width.toInt? = some (count : Int)) (hSmall : count < 2 ^ 64)
    (hWithin : padLimit.less width = false)
    (hSome : padding ≠ "" ∧ text.length < count) :
    answer = .ok (.string (beside (String.ofList (fillWith padding.toList (count - text.length))))) := by
  cases h with
  | tooWide _ hWide => cases hWide.symm.trans hWithin
  | unchanged _ hNothing =>
      rw [Number.toCount_eq hCount (Int.ofNat_lt.mpr hSmall), Int.toNat_natCast] at hNothing
      exact absurd hNothing (not_or.mpr ⟨hSome.1, Nat.not_le.mpr hSome.2⟩)
  | filled fill _ hFill hWidth =>
      have hWhole : count = fill.length + text.length := by
        rw [← hLength]
        exact Int.ofNat_inj.mp (Option.some.inj (hCount.symm.trans hWidth))
      have hSame : fill.toList = fillWith padding.toList fill.length := by
        have hPadding : padding.toList ≠ [] := fun h => hSome.1 (String.toList_eq_nil_iff.mp h)
        refine List.ext_getElem? fun i => ?_
        by_cases hi : i < fill.length
        · rw [hFill i hi, getElem?_fillWith hPadding hi, String.length_toList]
        · rw [List.getElem?_eq_none (by rw [String.length_toList]; omega),
            List.getElem?_eq_none (by rw [length_fillWith hPadding]; omega)]
      rw [hWhole, Nat.add_sub_cancel, ← hSame, String.ofList_toList]

end Padded

/-- A filling of so many characters brings a text to a width that is within the limit. -/
theorem Padded.of_fill {text padding : String} {width : Number} {count : Int} {beside : String → String}
    (hLength : ∀ fill, (beside fill).length = fill.length + text.length)
    (hCount : width.toInt? = some count) (hWithin : padLimit.less width = false)
    (hLimit : count ≤ (textLimit / 4 : Nat)) (hSome : padding ≠ "" ∧ text.length < count.toNat) :
    Padded text padding width beside
      (.ok (.string (beside (String.ofList (fillWith padding.toList (count.toNat - text.length)))))) := by
  have hPadding : padding.toList ≠ [] := fun h => hSome.1 (String.toList_eq_nil_iff.mp h)
  have hFillLength : (String.ofList (fillWith padding.toList (count.toNat - text.length))).length =
      count.toNat - text.length := by
    rw [String.length_ofList, length_fillWith hPadding]
  have hWidth : (beside (String.ofList (fillWith padding.toList (count.toNat - text.length)))).length =
      count.toNat := by
    rw [hLength, hFillLength]
    omega
  refine .filled _ hWithin ?_ ?_ ?_
  · intro i hi
    rw [hFillLength] at hi
    rw [String.toList_ofList, getElem?_fillWith hPadding hi, String.length_toList]
  · rw [hCount, hWidth, Int.toNat_of_nonneg (by omega)]
  · have hSize := utf8ByteSize_le_four_mul_length
      (beside (String.ofList (fillWith padding.toList (count.toNat - text.length))))
    rw [hWidth] at hSize
    have hRoom : 4 * (textLimit / 4) ≤ textLimit := Nat.mul_div_le textLimit 4
    omega

/-- Padding answers as it should on either side, whatever it is put beside. -/
theorem padded_fillFor (text padding : String) (width : Number) (beside : String → String)
    (hLength : ∀ fill, (beside fill).length = fill.length + text.length) (hEmpty : beside "" = text) :
    Padded text padding width beside
      (do return .string (beside (String.ofList (← fillFor text width padding)))) := by
  rw [fillFor]
  by_cases hTooWide : (width.isFinite && padLimit.less width) = true
  · rw [if_pos hTooWide]
    rw [Bool.and_eq_true] at hTooWide
    exact .tooWide hTooWide.1 hTooWide.2
  rw [if_neg hTooWide]
  show Padded text padding width beside (.ok (.string (beside (String.ofList (fillWith _ _)))))
  by_cases hNothing : padding = "" ∨ width.toCount ≤ text.length
  · have hZero : (if padding.isEmpty then 0 else width.toCount - text.length) = 0 := by
      rcases hNothing with rfl | hShort
      · rfl
      · rw [Nat.sub_eq_zero_of_le hShort, ite_self]
    rw [hZero, fillWith_zero, String.ofList_nil, hEmpty]
    exact .unchanged (fun hFinite => by simpa [hFinite] using hTooWide) hNothing
  · rw [not_or, Nat.not_le] at hNothing
    have hFinite : width.isFinite = true := by
      rw [← Bool.not_eq_false]
      intro h
      rw [Number.toCount_of_not_finite h] at hNothing
      omega
    have hCount := Number.toInt?_eq_some_iff.mpr ⟨hFinite, rfl⟩
    have hNotWide : padLimit.less width = false := by simpa [hFinite] using hTooWide
    have hLimit : width.rank.tdiv unitsPerOne ≤ (textLimit / 4 : Nat) :=
      Number.tdiv_le_of_not_less hFinite (by decide) hNotWide
    have hWidth : width.toCount = (width.rank.tdiv unitsPerOne).toNat :=
      Number.toCount_eq hCount (hLimit.trans_lt (by decide))
    rw [if_neg (by simpa using hNothing.1), hWidth]
    exact .of_fill hLength hCount hNotWide hLimit ⟨hNothing.1, hWidth ▸ hNothing.2⟩

end Builtin

namespace Context

open Builtin Operators

variable {c : Context}

theorem apply_multiply_string (hStandard : c.operators = .standard) (s : String) (n : Number) :
    c.apply .multiply (.string s) (.number n) = Value.string <$> repeatText s n := by
  rw [CallScope.apply, hStandard]
  rfl

/-- The padding functions among the built-in functions; a text is padded with blanks unless something else
is given. -/
theorem call_pad (hTable : c.functions = Builtin.table) (s padding : String) (n : Number) :
    (c.call "padleft" [.string s, .number n] = padStart s n " " ∧
      c.call "padleft" [.string s, .number n, .string padding] = padStart s n padding) ∧
    (c.call "padright" [.string s, .number n] = padEnd s n " " ∧
      c.call "padright" [.string s, .number n, .string padding] = padEnd s n padding) := by
  simp only [call, hTable]
  exact ⟨⟨rfl, rfl⟩, rfl, rfl⟩

theorem padded_padStart (s padding : String) (n : Number) :
    Padded s padding n (· ++ s) (padStart s n padding) :=
  padded_fillFor s padding n (· ++ s) (fun fill => String.length_append fill s) String.empty_append

theorem padded_padEnd (s padding : String) (n : Number) : Padded s padding n (s ++ ·) (padEnd s n padding) :=
  padded_fillFor s padding n (s ++ ·) (fun _ => by rw [String.length_append, Nat.add_comm]) String.append_empty

/-- A text is repeated as often as the whole part of a finite number says, unless that would make it larger
than the limit, and not at all for a number that is not finite; padding answers the text itself, or brings it
to exactly the width within the limit, or fails for a width beyond it. -/
theorem repeat_and_pad_within_limit (hStandard : c.operators = .standard) (hTable : c.functions = Builtin.table)
    (s padding : String) (n : Number) :
    ((∀ count : Int, n.toInt? = some count → c.apply .multiply (.string s) (.number n) =
        if (copies count.toNat s).utf8ByteSize ≤ textLimit then .ok (.string (copies count.toNat s))
        else .error .textTooLong) ∧
      (n.isFinite = false → c.apply .multiply (.string s) (.number n) = .ok (.string ""))) ∧
    (Padded s " " n (· ++ s) (c.call "padleft" [.string s, .number n]) ∧
      Padded s padding n (· ++ s) (c.call "padleft" [.string s, .number n, .string padding])) ∧
    (Padded s " " n (s ++ ·) (c.call "padright" [.string s, .number n]) ∧
      Padded s padding n (s ++ ·) (c.call "padright" [.string s, .number n, .string padding])) := by
  obtain ⟨⟨hStart, hStartWith⟩, hEnd, hEndWith⟩ := call_pad hTable s padding n
  rw [apply_multiply_string hStandard, hStart, hStartWith, hEnd, hEndWith]
  refine ⟨⟨fun count hCount => ?_, fun hNotFinite => ?_⟩,
    ⟨padded_padStart s " " n, padded_padStart s padding n⟩, padded_padEnd s " " n, padded_padEnd s padding n⟩
  · rw [repeatText_of_toInt? s hCount]
    split <;> rfl
  · rw [repeatText_of_not_finite s hNotFinite]
    rfl

/-- Two letters fill the limit to the brim when they are repeated half as often, and exceed it when they are
repeated once more. They are padded with letters of two bytes; a width one beyond the quarter of the limit is
refused. -/
theorem repeat_and_pad_within_limit_brim : bare.operators = .standard ∧ bare.functions = Builtin.table ∧
    bare.apply .multiply (.string "ab") (.number (.ofNat 8388608)) = .ok (.string (copies 8388608 "ab")) ∧
    bare.apply .multiply (.string "ab") (.number (.ofNat 8388609)) = .error .textTooLong ∧
    bare.apply .multiply (.string "ab") (.number (.infinity false)) = .ok (.string "") ∧
    bare.call "padleft" [.string "ab", .number (.ofNat 5), .string "éä"] = .ok (.string "éäéab") ∧
    bare.call "padright" [.string "ab", .number (.ofNat 4194305)] = .error .textTooLong := by
  have hWhole {count : Nat} (h : count ≤ 2 ^ 53) : (Number.ofNat count).toInt? = some (count : Int) :=
    (Number.denotes_ofNat (Number.representable_whole h)).toInt?
  obtain ⟨⟨hFits, -⟩, -⟩ := @repeat_and_pad_within_limit bare rfl rfl "ab" "" (.ofNat 8388608)
  obtain ⟨⟨hExceeds, -⟩, -⟩ := @repeat_and_pad_within_limit bare rfl rfl "ab" "" (.ofNat 8388609)
  obtain ⟨⟨-, hNothing⟩, -⟩ := @repeat_and_pad_within_limit bare rfl rfl "ab" "" (.infinity false)
  obtain ⟨-, ⟨-, hFilled⟩, -⟩ := @repeat_and_pad_within_limit bare rfl rfl "ab" "éä" (.ofNat 5)
  obtain ⟨-, -, hRefused, -⟩ := @repeat_and_pad_within_limit bare rfl rfl "ab" "" (.ofNat 4194305)
  refine ⟨rfl, rfl, ?_, ?_, hNothing rfl, ?_, ?_⟩
  · have hSize : (copies 8388608 "ab").utf8ByteSize ≤ textLimit := by
      rw [utf8ByteSize_copies]
      decide
    exact (hFits _ (hWhole (by decide))).trans (if_pos hSize)
  · have hSize : ¬(copies 8388609 "ab").utf8ByteSize ≤ textLimit := by
      rw [utf8ByteSize_copies]
      decide
    exact (hExceeds _ (hWhole (by decide))).trans (if_neg hSize)
  · exact hFilled.eq_fill (fun fill => String.length_append fill "ab") (hWhole (by decide)) (by decide)
      (by decide +kernel) ⟨by decide, by decide⟩
  · exact hRefused.eq_error (by decide +kernel) (by decide +kernel)

end Context

end DocQuery
