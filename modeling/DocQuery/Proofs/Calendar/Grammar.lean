import DocQuery.Proofs.Calendar.Form

/-!
The reader of date literals, part by part: each accepts what its part of a literal may be written as, and
a text is read when its parts are. No character that cuts a text stands in a part, so that a literal is
taken apart in one way only.
-/

namespace DocQuery.Date

open Calendar Text

/-- Only digits stand among digits. -/
theorem not_mem_of_isDigits {digits : List Char} (h : ∀ c ∈ digits, c.isDigit = true) {c : Char}
    (hChar : c.isDigit = false) : c ∉ digits := by
  intro hMem
  rw [h c hMem] at hChar
  cases hChar

/-- An offset is read exactly when it is one that is accepted. -/
theorem readOffset?_isSome_iff {sign : Char} {size : List Char} (hSign : sign = '+' ∨ sign = '-') :
    (readOffset? (sign :: size)).isSome = true ↔ (ZoneText.offset sign size).Accepted := by
  have hRange {side : Int} (hSide : side = 1 ∨ side = -1) (seconds : Nat) :
      (if offsetInRange (side * seconds) then some (side * seconds) else none).isSome = true ↔
        seconds < 86400 := by
    rw [Option.isSome_ite, offsetInRange_iff]
    rcases hSide with rfl | rfl <;> omega
  have hSide : (if (sign :: size).head? = some '-' then (-1 : Int) else 1) = 1 ∨
      (if (sign :: size).head? = some '-' then (-1 : Int) else 1) = -1 := by
    split <;> simp
  rw [readOffset?]
  change Option.isSome (if !(offsetDigits size).all Char.isDigit then none else _) = true ↔
    (sign = '+' ∨ sign = '-') ∧ (∀ c ∈ offsetDigits size, c.isDigit = true) ∧
      ((offsetDigits size).length = 2 ∨ (offsetDigits size).length = 4) ∧
      offsetSeconds (offsetDigits size) < 86400
  rw [← List.all_eq_true, and_iff_right hSign]
  by_cases hDigits : (offsetDigits size).all Char.isDigit = true
  · rw [hDigits, and_iff_right rfl, if_neg (by simp)]
    change Option.isSome (Option.bind (if (offsetDigits size).length = 2 then _ else _) _) = true ↔ _
    by_cases hTwo : (offsetDigits size).length = 2
    · have hField : IsField (offsetDigits size) := by
        have hSome : offsetDigits size ≠ [] := List.ne_nil_of_length_pos (hTwo.symm ▸ Nat.two_pos)
        exact ⟨hTwo, by simpa [isDigits, hSome] using hDigits⟩
      rw [if_pos hTwo, offsetSeconds_of_field hField, and_iff_right (.inl hTwo)]
      exact hRange hSide _
    · rw [if_neg hTwo, or_iff_right hTwo]
      change Option.isSome (Option.bind (if (offsetDigits size).length = 4 then _ else _) _) = true ↔ _
      by_cases hFour : (offsetDigits size).length = 4
      · rw [if_pos hFour, and_iff_right hFour, offsetSeconds]
        exact hRange hSide _
      · rw [if_neg hFour]
        exact iff_of_false Bool.false_ne_true fun h => hFour h.1
  · rw [if_pos (by simpa using hDigits)]
    exact iff_of_false Bool.false_ne_true fun h => hDigits h.1

/-- Without a sign and a final `Z` there is no zone. -/
theorem splitZone?_of_no_sign {cs : List Char} (hNoZ : dropEnd? ['Z'] cs = none)
    (hSigns : ∀ c ∈ cs, c ≠ '+' ∧ c ≠ '-') : splitZone? cs = some (cs, none) := by
  have hAll : cs.reverse.takeWhile (fun c => !(decide (c = '+') || decide (c = '-'))) = cs.reverse :=
    List.takeWhile_eq_self_iff.mpr fun c hMem => by
      have hNot := hSigns c (List.mem_reverse.mp hMem)
      simp [hNot.1, hNot.2]
  rw [splitZone?, hNoZ]
  dsimp only
  rw [hAll, List.length_reverse, if_pos (Nat.lt_succ_self _)]

/-- A text has no signs, or one that none follow. -/
theorem exists_last_sign (cs : List Char) :
    (∀ c ∈ cs, c ≠ '+' ∧ c ≠ '-') ∨ ∃ before sign after, cs = before ++ sign :: after ∧
      (sign = '+' ∨ sign = '-') ∧ ∀ c ∈ after, c ≠ '+' ∧ c ≠ '-' := by
  induction cs with
  | nil => exact .inl nofun
  | cons c rest ih =>
      rcases ih with hNone | ⟨before, sign, after, rfl, hSign, hAfter⟩
      · by_cases hSign : c = '+' ∨ c = '-'
        · exact .inr ⟨[], c, rest, rfl, hSign, hNone⟩
        · exact .inl (List.forall_mem_cons.mpr ⟨not_or.mp hSign, hNone⟩)
      · exact .inr ⟨c :: before, sign, after, rfl, hSign, hAfter⟩

/-- A zone that is split off stands behind the clock and is one that is read. -/
theorem exists_zone_of_splitZone? {cs clock : List Char} {zone : Option Int}
    (h : splitZone? cs = some (clock, zone)) : ∃ z : ZoneText, cs = clock ++ z.chars ∧ z.Accepted := by
  cases hNoZ : dropEnd? ['Z'] cs with
  | some before =>
      rw [splitZone?, hNoZ] at h
      cases h
      exact ⟨.worldTime, dropEnd?_eq_some_iff.mp hNoZ, trivial⟩
  | none =>
      rcases exists_last_sign cs with hNone | ⟨before, sign, after, rfl, hSign, hAfter⟩
      · rw [splitZone?_of_no_sign hNoZ hNone] at h
        cases h
        exact ⟨.none, (List.append_nil _).symm, trivial⟩
      · rw [splitZone?_of_sign hSign hAfter hNoZ] at h
        obtain ⟨offset, hRead, hEq⟩ := Option.map_eq_some_iff.mp h
        cases hEq
        exact ⟨.offset sign after, rfl, (readOffset?_isSome_iff hSign).mp (hRead ▸ rfl)⟩

/-- No second sign stands in an offset, and no `Z`. -/
theorem not_mem_of_offset {sign : Char} {size : List Char} (h : (ZoneText.offset sign size).Accepted) :
    ∀ c ∈ size, c ≠ '+' ∧ c ≠ '-' ∧ c ≠ 'Z' := by
  intro c hMem
  by_cases hColon : c = ':'
  · subst hColon
    decide
  · have hDigit := h.2.1 c (List.mem_filter.mpr ⟨hMem, bne_iff_ne.mpr hColon⟩)
    refine ⟨?_, ?_, ?_⟩ <;> · rintro rfl; cases hDigit

/-- A zone that is read is split off from a clock without signs. -/
theorem splitZone?_chars {z : ZoneText} (hZone : z.Accepted) {clock : List Char}
    (hClock : ∀ c ∈ clock, c ≠ '+' ∧ c ≠ '-' ∧ c ≠ 'Z') :
    ∃ zone, splitZone? (clock ++ z.chars) = some (clock, zone) := by
  cases z with
  | none =>
      have hNoZ : dropEnd? ['Z'] clock = none := Option.eq_none_iff_forall_ne_some.mpr fun rest hRest =>
        (hClock 'Z' (dropEnd?_eq_some_iff.mp hRest ▸ List.mem_append_right _ (List.mem_singleton_self _))).2.2
          rfl
      exact ⟨none, (List.append_nil clock).symm ▸
        splitZone?_of_no_sign hNoZ fun c hMem => ⟨(hClock c hMem).1, (hClock c hMem).2.1⟩⟩
  | worldTime =>
      refine ⟨some 0, ?_⟩
      rw [splitZone?, ZoneText.chars, dropEnd?_eq_some_iff.mpr rfl]
  | offset sign size =>
      obtain ⟨offset, hOffset⟩ := Option.isSome_iff_exists.mp ((readOffset?_isSome_iff hZone.1).mpr hZone)
      exact ⟨some offset, by
        rw [ZoneText.chars, splitZone?_append hZone.1 (not_mem_of_offset hZone), hOffset, Option.map_some]⟩

/-- Every field of the clock is read by itself. -/
theorem mapM_readClockField?_eq_some_iff {parts : List (List Char)} {numbers : List Nat} :
    parts.mapM readClockField? = some numbers ↔
      (∀ field ∈ parts, IsField field) ∧ parts.map natOfDigits = numbers := by
  induction parts generalizing numbers with
  | nil => simp
  | cons part rest ih =>
      rw [List.mapM_cons, readClockField?, List.forall_mem_cons, and_assoc]
      split
      · next hField =>
          rw [and_iff_right (show IsField part from hField)]
          simp only [Option.pure_def, Option.bind_eq_bind, Option.bind_some, Option.bind_eq_some_iff, ih,
            List.map_cons, Option.some.injEq]
          constructor
          · rintro ⟨_, ⟨hRest, hMap⟩, hEq⟩
            exact ⟨hRest, hMap ▸ hEq⟩
          · rintro ⟨hRest, hEq⟩
            exact ⟨_, ⟨hRest, rfl⟩, hEq⟩
      · next hField => exact iff_of_false (by simp) fun h => hField h.1

/-- The fields of a clock are read when they are two digits each that a clock shows. -/
theorem readFields_isSome_iff {cs : List Char} {nanos : Nat} (hNanos : nanos < 1000000000) :
    Option.isSome (((cutAt ':' cs).mapM readClockField?).bind fun numbers =>
      match numbers with
      | [hour] => ClockTime.ofParts? hour 0 0 nanos
      | [hour, minute] => ClockTime.ofParts? hour minute 0 nanos
      | [hour, minute, second] => ClockTime.ofParts? hour minute second nanos
      | _ => none) = true ↔
      (∀ field ∈ cutAt ':' cs, IsField field) ∧ IsClock ((cutAt ':' cs).map natOfDigits) := by
  have hParts {hour minute second : Nat} :
      (ClockTime.ofParts? hour minute second nanos).isSome = true ↔ hour < 24 ∧ minute < 60 ∧ second < 60 := by
    rw [ClockTime.ofParts?, Option.isSome_ite]
    simp [hNanos, and_assoc]
  cases hRead : (cutAt ':' cs).mapM readClockField? with
  | none =>
      refine iff_of_false Bool.false_ne_true fun h => ?_
      rw [mapM_readClockField?_eq_some_iff.mpr ⟨h.1, rfl⟩] at hRead
      cases hRead
  | some numbers =>
      obtain ⟨hFields, rfl⟩ := mapM_readClockField?_eq_some_iff.mp hRead
      rw [and_iff_right hFields, Option.bind_some]
      generalize (cutAt ':' cs).map natOfDigits = numbers
      rcases numbers with _ | ⟨hour, _ | ⟨minute, _ | ⟨second, _ | _⟩⟩⟩ <;> simp [IsClock, hParts]

theorem clockChars_none (fields : List (List Char)) : clockChars fields none = [':'].intercalate fields :=
  List.append_nil _

namespace IsClockText

variable {fields : List (List Char)} {fraction : Option (List Char)}

theorem not_mem_fields (h : IsClockText fields fraction) {c : Char} (hDigit : c.isDigit = false)
    (hColon : c ≠ ':') : c ∉ [':'].intercalate fields :=
  not_mem_intercalate hColon fun field hMem => not_mem_of_isDigits (h.1 field hMem).digits hDigit

/-- A fraction is split off from the fields. -/
theorem splitFirst?_chars (h : IsClockText fields fraction) :
    splitFirst? '.' (clockChars fields fraction) =
      fraction.map fun digits => ([':'].intercalate fields, digits) := by
  have hNoPoint := h.not_mem_fields (c := '.') rfl (by decide)
  cases fraction with
  | none =>
      rw [clockChars_none]
      exact splitFirst?_eq_none_iff.mpr hNoPoint
  | some digits => exact splitFirst?_append hNoPoint digits

theorem cutAt_fields (h : IsClockText fields fraction) : cutAt ':' ([':'].intercalate fields) = fields := by
  refine cutAt_intercalate ?_ fun field hMem => not_mem_of_isDigits (h.1 field hMem).digits rfl
  rintro rfl
  exact h.2.1

/-- Nothing but digits, colons and points stands in a time of day. -/
theorem not_mem (h : IsClockText fields fraction) {c : Char} (hDigit : c.isDigit = false) (hColon : c ≠ ':')
    (hPoint : c ≠ '.') : c ∉ clockChars fields fraction := by
  refine List.not_mem_append (h.not_mem_fields hDigit hColon) ?_
  cases fraction with
  | none => exact List.not_mem_nil
  | some digits =>
      exact List.not_mem_cons_of_ne_of_not_mem hPoint
        (not_mem_of_isDigits (digits_of_isDigits (h.2.2 digits rfl)) hDigit)

end IsClockText

/-- A time of day is read exactly when it is written with fields and a fraction that are accepted. -/
theorem readClock?_isSome_iff {cs : List Char} : (readClock? cs).isSome = true ↔
    ∃ fields fraction, cs = clockChars fields fraction ∧ IsClockText fields fraction := by
  constructor
  · intro h
    rw [readClock?] at h
    cases hSplit : splitFirst? '.' cs with
    | none =>
        rw [hSplit] at h
        obtain ⟨hFields, hClock⟩ := (readFields_isSome_iff (by decide)).mp h
        exact ⟨cutAt ':' cs, none, by simp [clockChars, intercalate_cutAt], hFields, hClock, by simp⟩
    | some parts =>
        obtain ⟨before, digits⟩ := parts
        rw [hSplit] at h
        dsimp only at h
        by_cases hDigits : isDigits digits = true
        · rw [if_pos hDigits] at h
          have hMillis := fractionMillis_lt (digits_of_isDigits hDigits)
          obtain ⟨hFields, hClock⟩ := (readFields_isSome_iff (by omega)).mp h
          refine ⟨cutAt ':' before, some digits, ?_, hFields, hClock,
            fun _ hMem => Option.mem_some.mp hMem ▸ hDigits⟩
          rw [(splitFirst?_eq_some_iff.mp hSplit).1, clockChars, intercalate_cutAt]
          rfl
        · rw [if_neg hDigits] at h
          cases h
  · rintro ⟨fields, fraction, rfl, h⟩
    rw [readClock?, h.splitFirst?_chars]
    cases fraction with
    | none =>
        rw [clockChars_none]
        exact (readFields_isSome_iff (by decide)).mpr (h.cutAt_fields.symm ▸ ⟨h.1, h.2.1⟩)
    | some digits =>
        have hDigits := h.2.2 digits rfl
        have hMillis := fractionMillis_lt (digits_of_isDigits hDigits)
        simp only [Option.map_some, hDigits, if_true]
        exact (readFields_isSome_iff (by omega)).mpr (h.cutAt_fields.symm ▸ ⟨h.1, h.2.1⟩)

/-- Years of four digits are within the limits, so that a day only has to exist. -/
theorem dayOf?_isSome_iff {year : Int} {month day : Nat} (hYear : 0 ≤ year ∧ year < 10000) :
    (dayOf? year month day).isSome = true ↔ (⟨year, month, day⟩ : Civil).exists = true := by
  have hRange : (⟨year, month, day⟩ : Civil).inRange = true := by
    rw [Civil.inRange, firstYear, lastYear, Bool.and_eq_true, decide_eq_true_iff, decide_eq_true_iff]
    dsimp only
    omega
  rw [dayOf?, Option.isSome_ite, hRange, Bool.and_true]

theorem dayChars_eq_intercalate (year month : List Char) (day : Option (List Char)) :
    dayChars year month day = ['-'].intercalate (year :: month :: day.toList) := by
  cases day <;> simp [dayChars, List.intercalate_cons_cons]

/-- A day is cut at its dashes into the parts it was made of. -/
theorem cutAt_dayChars {year month : List Char} {day : Option (List Char)} (h : IsDayText year month day) :
    cutAt '-' (dayChars year month day) = year :: month :: day.toList := by
  rw [dayChars_eq_intercalate]
  refine cutAt_intercalate (List.cons_ne_nil _ _) ?_
  simp only [List.forall_mem_cons, Option.mem_toList]
  exact ⟨not_mem_of_isDigits (digits_of_isDigits h.ofYear.2) rfl,
    not_mem_of_isDigits (digits_of_isDigits h.ofMonth) rfl,
    fun digits hMem => not_mem_of_isDigits (digits_of_isDigits (h.ofDay digits hMem)) rfl⟩

/-- The month and the day of a real date are far below the limit for numbers. -/
theorem smallNat?_of_exists {year : Int} {month n : Nat} {digits : List Char}
    (hExists : (⟨year, month, n⟩ : Civil).exists = true)
    (hValue : natOfDigits digits = month ∨ natOfDigits digits = n) :
    smallNat? digits = some (natOfDigits digits) := by
  obtain ⟨⟨_, hMonth⟩, _, hDay⟩ := exists_iff.mp hExists
  have hLength : monthLength year month ≤ 31 := by
    unfold monthLength
    split_ifs <;> decide
  have hSmall : natOfDigits digits ≤ 31 := by
    rcases hValue with hValue | hValue
    · exact hValue ▸ hMonth.trans (by decide)
    · exact hValue ▸ hDay.trans hLength
  exact if_pos (hSmall.trans_lt (by decide))

theorem eq_of_smallNat? {digits : List Char} {n : Nat} (h : smallNat? digits = some n) :
    natOfDigits digits = n :=
  Option.some.inj (Option.ite_none_right_eq_some.mp h).2

/-- The pieces of a day are read when they are digits that name a real date. -/
theorem readDay?_isSome_of_cutAt {timed : Bool} {cs year month : List Char} {day : Option (List Char)}
    (hPieces : cutAt '-' cs = year :: month :: day.toList) :
    (readDay? timed cs).isSome = true ↔ IsDayText year month day ∧ (timed = true → day.isSome = true) := by
  have hYear (hLength : year.length = 4) (hDigits : isDigits year = true) :
      (0 : Int) ≤ natOfDigits year ∧ (natOfDigits year : Int) < 10000 := by
    have hLess := natOfDigits_lt_pow (digits_of_isDigits hDigits)
    rw [hLength] at hLess
    omega
  rw [readDay?, hPieces]
  constructor
  · intro h
    split at h
    · cases h
    · next hAll =>
        rw [Bool.not_eq_true, Bool.not_eq_false', List.all_eq_true] at hAll
        simp only [List.forall_mem_cons, Option.mem_toList] at hAll
        obtain ⟨hYearDigits, hMonthDigits, hDayDigits⟩ := hAll
        cases day with
        | none =>
            dsimp only [Option.toList] at h
            split at h
            · cases h
            · next hForm =>
                obtain ⟨hLength, hUntimed⟩ := not_or.mp hForm
                rw [not_not] at hLength
                obtain ⟨found, hFound⟩ := Option.isSome_iff_exists.mp h
                obtain ⟨m, hMonth, hDay⟩ := Option.bind_eq_some_iff.mp hFound
                obtain rfl := eq_of_smallNat? hMonth
                have hReal := (dayOf?_isSome_iff (hYear hLength hYearDigits)).mp (Option.isSome_of_eq_some hDay)
                exact ⟨⟨⟨hLength, hYearDigits⟩, hMonthDigits, by simp, hReal⟩,
                  fun hTimed => absurd hTimed hUntimed⟩
        | some digits =>
            dsimp only [Option.toList] at h
            split at h
            · cases h
            · next hLength =>
                rw [not_not] at hLength
                obtain ⟨found, hFound⟩ := Option.isSome_iff_exists.mp h
                obtain ⟨m, hMonth, hRest⟩ := Option.bind_eq_some_iff.mp hFound
                obtain ⟨n, hDay, hDayOf⟩ := Option.bind_eq_some_iff.mp hRest
                obtain rfl := eq_of_smallNat? hMonth
                obtain rfl := eq_of_smallNat? hDay
                have hReal :=
                  (dayOf?_isSome_iff (hYear hLength hYearDigits)).mp (Option.isSome_of_eq_some hDayOf)
                exact ⟨⟨⟨hLength, hYearDigits⟩, hMonthDigits, hDayDigits, hReal⟩, fun _ => rfl⟩
  · rintro ⟨⟨⟨hLength, hYearDigits⟩, hMonthDigits, hDayDigits, hReal⟩, hTimed⟩
    have hAll : (year :: month :: day.toList).all isDigits = true := by
      simp only [List.all_eq_true, List.forall_mem_cons, Option.mem_toList]
      exact ⟨hYearDigits, hMonthDigits, hDayDigits⟩
    have hExists := (dayOf?_isSome_iff (hYear hLength hYearDigits)).mpr hReal
    have hMonth := smallNat?_of_exists hReal (.inl rfl : natOfDigits month = _ ∨ _)
    rw [if_neg (by simp [hAll])]
    cases day with
    | none =>
        have hUntimed : ¬timed = true := fun hTrue => absurd (hTimed hTrue) Bool.false_ne_true
        dsimp only [Option.toList]
        rw [if_neg (not_or.mpr ⟨not_not.mpr hLength, hUntimed⟩), hMonth]
        exact hExists
    | some digits =>
        dsimp only [Option.toList]
        rw [if_neg (not_not.mpr hLength), hMonth,
          smallNat?_of_exists hReal (.inr rfl : natOfDigits digits = _ ∨ _)]
        exact hExists

/-- A day is read exactly when it is written with parts that are accepted, and timed ones have a day of the
month. -/
theorem readDay?_isSome_iff {timed : Bool} {cs : List Char} : (readDay? timed cs).isSome = true ↔
    ∃ year month day, cs = dayChars year month day ∧ IsDayText year month day ∧
      (timed = true → day.isSome = true) := by
  constructor
  · intro h
    have hWhole := intercalate_cutAt '-' cs
    match hPieces : cutAt '-' cs with
    | [year, month] =>
        have hNone : cutAt '-' cs = year :: month :: Option.toList none := hPieces
        obtain ⟨hDay, hTimed⟩ := (readDay?_isSome_of_cutAt hNone).mp h
        exact ⟨year, month, none, by rw [dayChars_eq_intercalate, ← hWhole, hNone], hDay, hTimed⟩
    | [year, month, day] =>
        have hSome : cutAt '-' cs = year :: month :: Option.toList (some day) := hPieces
        obtain ⟨hDay, hTimed⟩ := (readDay?_isSome_of_cutAt hSome).mp h
        exact ⟨year, month, some day, by rw [dayChars_eq_intercalate, ← hWhole, hSome], hDay, hTimed⟩
    | [] => simp [readDay?, hPieces] at h
    | [_] => simp [readDay?, hPieces] at h
    | _ :: _ :: _ :: _ :: _ => simp [readDay?, hPieces] at h
  · rintro ⟨year, month, day, rfl, hDay, hTimed⟩
    exact (readDay?_isSome_of_cutAt (cutAt_dayChars hDay)).mpr ⟨hDay, hTimed⟩

/-- A date with a year of four digits lies within the limits, whatever the clock shows. -/
theorem ofLocal?_isSome {c : Civil} {t : ClockTime} {offset : Int} (hExists : c.exists = true)
    (hYear : 0 ≤ c.year ∧ c.year < 10000) (hTime : t.seconds < 86400) (hOffset : offsetInRange offset = true) :
    (ofLocal? c.toDay t offset).isSome = true := by
  have hDay := toDay_bounds hExists hYear
  rw [offsetInRange_iff] at hOffset
  have hStart : rangeStart ≤ -86400100000 := by decide
  have hEnd : 259200200000 ≤ rangeEnd := by decide
  rw [ofLocal?, Option.isSome_ite, inRange, Bool.and_eq_true, decide_eq_true_iff, decide_eq_true_iff,
    secondsPerDay]
  dsimp only
  omega

/-- Every day that is read has its dates, at any time of day and any offset. -/
theorem isSome_of_readDay? {timed : Bool} {cs : List Char} {day : Int} {t : ClockTime} {offset : Int}
    (h : readDay? timed cs = some day) (hTime : t.seconds < 86400) (hOffset : offsetInRange offset = true) :
    (ofLocal? day t offset).isSome = true := by
  obtain ⟨c, hExists, hYear, rfl⟩ := exists_of_readDay? h
  exact ofLocal?_isSome hExists hYear hTime hOffset

/-! ### Literals as a whole -/

/-- Nothing but digits and dashes stands in a day. -/
theorem IsDayText.not_mem {year month : List Char} {day : Option (List Char)} (h : IsDayText year month day)
    {c : Char} (hDigit : c.isDigit = false) (hDash : c ≠ '-') : c ∉ dayChars year month day := by
  rw [dayChars_eq_intercalate]
  refine not_mem_intercalate hDash ?_
  simp only [List.forall_mem_cons, Option.mem_toList]
  exact ⟨not_mem_of_isDigits (digits_of_isDigits h.ofYear.2) hDigit,
    not_mem_of_isDigits (digits_of_isDigits h.ofMonth) hDigit,
    fun digits hMem => not_mem_of_isDigits (digits_of_isDigits (h.ofDay digits hMem)) hDigit⟩

/-- Nothing in a time of day could begin a zone. -/
theorem IsClockText.unsigned {fields : List (List Char)} {fraction : Option (List Char)}
    (h : IsClockText fields fraction) : ∀ c ∈ clockChars fields fraction, c ≠ '+' ∧ c ≠ '-' ∧ c ≠ 'Z' :=
  fun _ hMem => ⟨ne_of_mem_of_not_mem hMem (h.not_mem rfl (by decide) (by decide)),
    ne_of_mem_of_not_mem hMem (h.not_mem rfl (by decide) (by decide)),
    ne_of_mem_of_not_mem hMem (h.not_mem rfl (by decide) (by decide))⟩

/-- Zones that are accepted and written alike are the same. -/
theorem ZoneText.Accepted.eq_of_chars {z z' : ZoneText} (h : z.Accepted) (h' : z'.Accepted)
    (hChars : z.chars = z'.chars) : z = z' := by
  have hNoZ {sign : Char} {size : List Char} (hAccepted : (offset sign size).Accepted) :
      (offset sign size).chars ≠ ['Z'] := by
    intro hEq
    obtain ⟨rfl, -⟩ := List.cons.inj hEq
    exact absurd hAccepted.1 (by decide)
  cases z with
  | none => cases z' <;> first | rfl | cases hChars
  | worldTime =>
      cases z' with
      | none => cases hChars
      | worldTime => rfl
      | offset sign size => exact absurd hChars.symm (hNoZ h')
  | offset sign size =>
      cases z' with
      | none => cases hChars
      | worldTime => exact absurd hChars (hNoZ h)
      | offset sign' size' =>
          cases hChars
          rfl

/-- A time of day that is read is written in one way. -/
theorem TimeText.eq_of_chars {t t' : TimeText} (h : IsClockText t.fields t.fraction ∧ t.zone.Accepted)
    (h' : IsClockText t'.fields t'.fraction ∧ t'.zone.Accepted) (hChars : t.chars = t'.chars) : t = t' := by
  obtain ⟨zone, hZone⟩ := splitZone?_chars h.2 h.1.unsigned
  obtain ⟨zone', hZone'⟩ := splitZone?_chars h'.2 h'.1.unsigned
  have hSplit : clockChars t.fields t.fraction = clockChars t'.fields t'.fraction := by
    have hEq := hZone.symm.trans ((congrArg splitZone? hChars).trans hZone')
    exact (Prod.mk.inj (Option.some.inj hEq)).1
  have hZones : t.zone.chars = t'.zone.chars := by
    rw [chars, chars, hSplit] at hChars
    exact List.append_cancel_left hChars
  have hFraction := h.1.splitFirst?_chars.symm.trans
    ((congrArg (splitFirst? '.') hSplit).trans h'.1.splitFirst?_chars)
  have hFractions : t.fraction = t'.fraction := by
    simpa using congrArg (Option.map Prod.snd) hFraction
  have hFields : t.fields = t'.fields := by
    rw [hFractions, clockChars, clockChars] at hSplit
    rw [← h.1.cutAt_fields, ← h'.1.cutAt_fields, List.append_cancel_right hSplit]
  cases t
  cases t'
  cases hFields
  cases hFractions
  cases h.2.eq_of_chars h'.2 hZones
  rfl

namespace LiteralText.Accepted

variable {l l' : LiteralText}

/-- The time of day is split off from the day. -/
theorem splitFirst?_chars (h : l.Accepted) : splitFirst? 'T' l.chars =
    (l.day.bind Prod.snd).map fun t => (dayChars l.year l.month (l.day.map Prod.fst), t.chars) := by
  have hNoTime := h.day.not_mem (c := 'T') rfl (by decide)
  rw [chars]
  cases l.day.bind Prod.snd with
  | none => exact splitFirst?_eq_none_iff.mpr (by rwa [Option.map_none, Option.getD_none, List.append_nil])
  | some t => exact splitFirst?_append hNoTime t.chars

/-- A literal that is read is written in one way. -/
theorem eq_of_chars (h : l.Accepted) (h' : l'.Accepted) (hChars : l.chars = l'.chars) : l = l' := by
  have hSplit := h.splitFirst?_chars.symm.trans ((congrArg (splitFirst? 'T') hChars).trans h'.splitFirst?_chars)
  obtain ⟨hDay, hTime⟩ : dayChars l.year l.month (l.day.map Prod.fst) =
      dayChars l'.year l'.month (l'.day.map Prod.fst) ∧ l.day.bind Prod.snd = l'.day.bind Prod.snd := by
    have hTimes := h.time
    have hTimes' := h'.time
    rw [chars, chars] at hChars
    cases hLeft : l.day.bind Prod.snd with
    | none =>
        cases hRight : l'.day.bind Prod.snd with
        | none => exact ⟨by simpa [hLeft, hRight] using hChars, rfl⟩
        | some t' => simp [hLeft, hRight] at hSplit
    | some t =>
        cases hRight : l'.day.bind Prod.snd with
        | none => simp [hLeft, hRight] at hSplit
        | some t' =>
            simp only [hLeft, hRight, Option.map_some, Option.some.injEq, Prod.mk.injEq] at hSplit
            exact ⟨hSplit.1, congrArg some (TimeText.eq_of_chars (hTimes t hLeft) (hTimes' t' hRight) hSplit.2)⟩
  have hPieces := (cutAt_dayChars h.day).symm.trans ((congrArg (cutAt '-') hDay).trans (cutAt_dayChars h'.day))
  obtain ⟨year, month, day⟩ := l
  obtain ⟨year', month', day'⟩ := l'
  obtain ⟨rfl, hRest⟩ := List.cons.inj hPieces
  obtain ⟨rfl, hDays⟩ := List.cons.inj hRest
  have hPair : day = day' := by
    cases day with
    | none =>
        cases day' with
        | none => rfl
        | some _ => cases hDays
    | some _ =>
        cases day' with
        | none => cases hDays
        | some _ => exact congrArg some (Prod.ext (List.cons.inj hDays).1 hTime)
  exact hPair ▸ rfl

end LiteralText.Accepted

/-- A zone whose clocks skip no time. -/
def LocalZone.IsGapless (zone : LocalZone) : Prop :=
  ∀ seconds, ∃ offset, zone seconds = some offset ∧ offsetInRange offset = true

theorem isGapless_worldTime : LocalZone.IsGapless worldTime := fun _ => ⟨0, rfl, by decide⟩

/-- Where no time is skipped, every day and time of day has a date. -/
theorem localize?_isSome {zone : LocalZone} (hZone : zone.IsGapless) {timed : Bool} {cs : List Char} {day : Int}
    {t : ClockTime} {offset? : Option Int} (h : readDay? timed cs = some day) (hTime : t.seconds < 86400)
    (hOffset : ∀ offset, offset? = some offset → offsetInRange offset = true) :
    (localize? zone day t offset?).isSome = true := by
  cases offset? with
  | some offset => exact isSome_of_readDay? h hTime (hOffset offset rfl)
  | none =>
      obtain ⟨offset, hSome, hRange⟩ := hZone (day * secondsPerDay + t.seconds)
      have hLocal : localize? zone day t none = ofLocal? day t offset := by
        rw [localize?, Option.orElse_none, hSome]
        rfl
      rw [hLocal]
      exact isSome_of_readDay? h hTime hRange

/-- A text that is read is a literal between blanks, in every local zone. -/
theorem exists_literal_of_ofLiteral? {zone : LocalZone} {text : String}
    (h : (ofLiteral? text zone).isSome = true) : ∃ l : LiteralText, l.Accepted ∧ l.chars = trim text.toList := by
  rw [ofLiteral?] at h
  dsimp only at h
  generalize trim text.toList = cs at h ⊢
  cases hSplit : splitFirst? 'T' cs with
  | none =>
      rw [hSplit] at h
      obtain ⟨d, hRead⟩ := Option.isSome_iff_exists.mp h
      obtain ⟨found, hDay, -⟩ := Option.bind_eq_some_iff.mp hRead
      obtain ⟨year, month, day, rfl, hText, -⟩ := readDay?_isSome_iff.mp (Option.isSome_of_eq_some hDay)
      have hFirst : (day.map fun digits => (digits, (none : Option TimeText))).map Prod.fst = day := by
        rw [Option.map_map,
          show Prod.fst ∘ (fun digits : List Char => (digits, (none : Option TimeText))) = id from rfl,
          Option.map_id, id]
      have hSecond : (day.map fun digits => (digits, (none : Option TimeText))).bind Prod.snd = none := by
        cases day <;> rfl
      refine ⟨⟨year, month, day.map (·, none)⟩, ⟨hFirst.symm ▸ hText, ?_⟩, ?_⟩
      · simp [hSecond]
      · rw [LiteralText.chars, hFirst, hSecond]
        exact List.append_nil _
  | some parts =>
      obtain ⟨dayPart, timePart⟩ := parts
      rw [hSplit] at h
      obtain ⟨d, hRead⟩ := Option.isSome_iff_exists.mp h
      obtain ⟨found, hDay, hRest⟩ := Option.bind_eq_some_iff.mp hRead
      obtain ⟨⟨clock, zone⟩, hZone, hTimed⟩ := Option.bind_eq_some_iff.mp hRest
      obtain ⟨time, hClock, -⟩ := Option.bind_eq_some_iff.mp hTimed
      obtain ⟨year, month, day, rfl, hText, hSome⟩ := readDay?_isSome_iff.mp (Option.isSome_of_eq_some hDay)
      obtain ⟨digits, rfl⟩ := Option.isSome_iff_exists.mp (hSome rfl)
      obtain ⟨z, rfl, hAccepted⟩ := exists_zone_of_splitZone? hZone
      obtain ⟨fields, fraction, rfl, hFields⟩ := readClock?_isSome_iff.mp (Option.isSome_of_eq_some hClock)
      refine ⟨⟨year, month, some (digits, some ⟨fields, fraction, z⟩)⟩, ⟨hText, ?_⟩, ?_⟩
      · rintro t ⟨⟩
        exact ⟨hFields, hAccepted⟩
      · exact (splitFirst?_eq_some_iff.mp hSplit).1.symm

/-- A literal between blanks is read where no time is skipped. -/
theorem LiteralText.Accepted.ofLiteral?_isSome {zone : LocalZone} (hGapless : zone.IsGapless) {l : LiteralText}
    {text : String} (h : l.Accepted) (hChars : l.chars = trim text.toList) :
    (ofLiteral? text zone).isSome = true := by
  rw [ofLiteral?]
  dsimp only
  rw [← hChars, h.splitFirst?_chars]
  cases hTime : l.day.bind Prod.snd with
  | none =>
      have hChars : l.chars = dayChars l.year l.month (l.day.map Prod.fst) := by
        rw [LiteralText.chars, hTime]
        exact List.append_nil _
      obtain ⟨day, hDay⟩ := Option.isSome_iff_exists.mp
        (readDay?_isSome_iff.mpr ⟨_, _, _, hChars, h.day, by simp⟩ : (readDay? false l.chars).isSome = true)
      simp only [Option.map_none, hDay, Option.bind_eq_bind, Option.bind_some]
      exact localize?_isSome hGapless hDay (by decide)
        fun _ hSame => absurd hSame.symm (Option.some_ne_none _)
  | some t =>
      obtain ⟨hClock, hZone⟩ := h.time t hTime
      obtain ⟨zone, hSplit⟩ := splitZone?_chars hZone hClock.unsigned
      have hSome : (l.day.map Prod.fst).isSome = true := by
        cases hDay : l.day with
        | none => rw [hDay] at hTime; cases hTime
        | some _ => rfl
      obtain ⟨day, hDay⟩ := Option.isSome_iff_exists.mp
        (readDay?_isSome_iff.mpr ⟨_, _, _, rfl, h.day, fun _ => hSome⟩ :
          (readDay? true (dayChars l.year l.month (l.day.map Prod.fst))).isSome = true)
      obtain ⟨time, hRead⟩ := Option.isSome_iff_exists.mp (readClock?_isSome_iff.mpr ⟨_, _, rfl, hClock⟩)
      simp only [Option.map_some, hDay, TimeText.chars, hSplit, hRead, Option.bind_eq_bind, Option.bind_some]
      refine localize?_isSome hGapless hDay (bounds_of_readClock? hRead).1 fun offset hSame => ?_
      exact (minutes_of_splitZone? (hSame ▸ hSplit)).2

/-- A text is read when it is a literal between blanks. -/
theorem ofLiteral?_isSome_iff {zone : LocalZone} (hGapless : zone.IsGapless) (text : String) :
    (ofLiteral? text zone).isSome = true ↔ ∃ l : LiteralText, l.Accepted ∧ l.chars = trim text.toList :=
  ⟨exists_literal_of_ofLiteral?, fun ⟨_, h, hChars⟩ => h.ofLiteral?_isSome hGapless hChars⟩

/-- A loose literal is read although nothing that is meant is written so. -/
theorem LiteralText.Accepted.undocumented {zone : LocalZone} (hGapless : zone.IsGapless) {l : LiteralText}
    {text : String} (h : l.Accepted) (hLoose : l.Loose) (hChars : l.chars = trim text.toList) :
    (ofLiteral? text zone).isSome = true ∧ ¬∃ l : LiteralText, l.Documented ∧ l.chars = trim text.toList := by
  refine ⟨h.ofLiteral?_isSome hGapless hChars, ?_⟩
  rintro ⟨l', hDocumented, hChars'⟩
  obtain ⟨hAccepted, hTidy⟩ := LiteralText.documented_iff.mp hDocumented
  exact hTidy (h.eq_of_chars hAccepted (hChars.trans hChars'.symm) ▸ hLoose)

/-- The texts that are read are the literals that are read, between blanks. They are the texts that are
meant, but for the loose ones: a text with a short or long month or day, with a fraction of another field
than the seconds, or with colons where none are meant is read as well. So it is in every local zone whose
clocks skip no time. -/
theorem ofLiteral?_documented_iff (zone : LocalZone) (hGapless : zone.IsGapless) (text : String) :
    ((ofLiteral? text zone).isSome = true ↔ ∃ l : LiteralText, l.Accepted ∧ l.chars = trim text.toList) ∧
      (((ofLiteral? text zone).isSome = true ↔ ∃ l : LiteralText, l.Documented ∧ l.chars = trim text.toList) ↔
        ¬∃ l : LiteralText, l.Accepted ∧ l.Loose ∧ l.chars = trim text.toList) := by
  refine ⟨ofLiteral?_isSome_iff hGapless text, fun hSame => ?_, fun hNone => ?_⟩
  · rintro ⟨l, hAccepted, hLoose, hChars⟩
    obtain ⟨hRead, hMeant⟩ := hAccepted.undocumented hGapless hLoose hChars
    exact hMeant (hSame.mp hRead)
  · rw [ofLiteral?_isSome_iff hGapless text]
    constructor
    · rintro ⟨l, hAccepted, hChars⟩
      refine ⟨l, LiteralText.documented_iff.mpr ⟨hAccepted, fun hLoose => ?_⟩, hChars⟩
      exact hNone ⟨l, hAccepted, hLoose, hChars⟩
    · rintro ⟨l, hDocumented, hChars⟩
      exact ⟨l, (LiteralText.documented_iff.mp hDocumented).1, hChars⟩

def anHourAhead : LocalZone := fun _ => some 3600

def shortMonth : LiteralText := ⟨"2021".toList, "4".toList, none⟩

theorem accepted_shortMonth : shortMonth.Accepted := ⟨⟨by decide, by decide, nofun, by decide⟩, nofun⟩

theorem loose_shortMonth : shortMonth.Loose := .inl (by decide)

/-- A month of one digit is read an hour ahead of world time, where clocks skip nothing. -/
theorem ofLiteral?_documented_iff_anHourAhead : anHourAhead.IsGapless ∧
    (ofLiteral? "2021-4" anHourAhead).isSome = true ∧
    ¬((ofLiteral? "2021-4" anHourAhead).isSome = true ↔
      ∃ l : LiteralText, l.Documented ∧ l.chars = trim "2021-4".toList) := by
  have hGapless : anHourAhead.IsGapless := fun _ => ⟨3600, rfl, by decide⟩
  obtain ⟨hRead, hMeant⟩ := ofLiteral?_documented_iff anHourAhead hGapless "2021-4"
  refine ⟨hGapless, hRead.mpr ⟨shortMonth, accepted_shortMonth, rfl⟩, fun hSame => ?_⟩
  exact hMeant.mp hSame ⟨shortMonth, accepted_shortMonth, loose_shortMonth, rfl⟩

/-- A month of one digit, a fraction of an hour and an offset with colons at wrong places are read. -/
theorem ofLiteral?_undocumented :
    ((ofLiteral? "2021-4").isSome = true ∧
      ¬∃ l : LiteralText, l.Documented ∧ l.chars = trim "2021-4".toList) ∧
    ((ofLiteral? "2021-04-18T04.5").isSome = true ∧
      ¬∃ l : LiteralText, l.Documented ∧ l.chars = trim "2021-04-18T04.5".toList) ∧
    ((ofLiteral? "2021-04-18T04:19+0:2:00").isSome = true ∧
      ¬∃ l : LiteralText, l.Documented ∧ l.chars = trim "2021-04-18T04:19+0:2:00".toList) := by
  refine ⟨?_, ?_, ?_⟩
  · exact accepted_shortMonth.undocumented isGapless_worldTime loose_shortMonth rfl
  · refine LiteralText.Accepted.undocumented isGapless_worldTime
      (l := ⟨"2021".toList, "04".toList, some ("18".toList, some ⟨["04".toList], some "5".toList, .none⟩)⟩)
      ⟨?_, ?_⟩ (.inr (.inr ⟨_, rfl, .inl (by decide)⟩)) rfl
    · exact ⟨by decide, by decide, by decide, by decide⟩
    · rintro _ ⟨⟩
      exact ⟨⟨by decide, (by decide : 4 < 24), by decide⟩, trivial⟩
  · refine LiteralText.Accepted.undocumented isGapless_worldTime
      (l := ⟨"2021".toList, "04".toList, some ("18".toList,
        some ⟨["04".toList, "19".toList], none, .offset '+' "0:2:00".toList⟩)⟩)
      ⟨?_, ?_⟩ (.inr (.inr ⟨_, rfl, .inr ?_⟩)) rfl
    · exact ⟨by decide, by decide, by decide, by decide⟩
    · rintro _ ⟨⟩
      have hSize : offsetSeconds (offsetDigits "0:2:00".toList) = 7200 := rfl
      exact ⟨⟨by decide, (by decide : 4 < 24 ∧ 19 < 60), nofun⟩, .inl rfl, List.all_eq_true.mp rfl, .inr rfl,
        hSize.trans_lt (by decide)⟩
    · exact ⟨by decide, by decide⟩

end DocQuery.Date
