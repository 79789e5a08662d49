import DocQuery.Calendar.Literal
import DocQuery.Proofs.Calendar.Day
import DocQuery.Proofs.Number.Text
import DocQuery.Proofs.Text.Class
import DocQuery.Proofs.Text.Slice

/-!
The exchange form of a date is a date literal. Its numbers are written with a fixed count of digits, and
no digit is a separator, so that every reader cuts the text where the parts were put together. What a
literal stands for is a date that the exchange form has room for.
-/

namespace DocQuery.Date

open Calendar Text

/-- A number is written with a count of digits. -/
structure Spells (cs : List Char) (width n : Nat) : Prop where
  length : cs.length = width
  digits : ∀ c ∈ cs, c.isDigit = true
  value : natOfDigits cs = n

/-- A number padded with zeros is written with as many digits as it is padded to. -/
theorem spells_padded {width n : Nat} (hWidth : 0 < width) (h : n < 10 ^ width) :
    Spells (padded width n).toList width n := by
  have hLength : (Nat.toDigits 10 n).length ≤ width :=
    (Nat.length_toDigits_le_iff (by decide) hWidth).mpr h
  rw [padded, String.toList_ofList]
  constructor
  · rw [List.length_append, List.length_replicate]
    omega
  · exact List.forall_mem_append.mpr ⟨Numeral.isDigit_of_mem_zeros, Numeral.isDigit_of_mem_toDigits⟩
  · rw [natOfDigits_eq, Nat.ofDigitChars_append, Nat.ofDigitChars_replicate_zero, Nat.mul_zero,
      Nat.ofDigitChars_ten_toDigits]

namespace Spells

variable {cs : List Char} {width n : Nat}

theorem not_mem (h : Spells cs width n) {c : Char} (hChar : c.isDigit = false) : c ∉ cs := by
  intro hMem
  rw [h.digits c hMem] at hChar
  cases hChar

theorem ne_nil (h : Spells cs width n) (hWidth : 0 < width) : cs ≠ [] :=
  List.ne_nil_of_length_pos (h.length.symm ▸ hWidth)

theorem isDigits (h : Spells cs width n) (hWidth : 0 < width) : isDigits cs = true := by
  simpa [Date.isDigits, h.ne_nil hWidth] using h.digits

theorem lt_pow (h : Spells cs width n) : n < 10 ^ width := by
  rw [← h.value, ← h.length]
  exact natOfDigits_lt_pow h.digits

theorem smallNat? (h : Spells cs 2 n) : smallNat? cs = some n := by
  rw [Date.smallNat?, h.value]
  exact if_pos (h.lt_pow.trans (by decide))

theorem readClockField? (h : Spells cs 2 n) : readClockField? cs = some n := by
  rw [Date.readClockField?, if_pos ⟨h.length, h.isDigits (by decide)⟩, h.value]

/-- The milliseconds are the first three digits of a fraction. -/
theorem fractionMillis (h : Spells cs width n) (hWidth : 3 ≤ width) :
    fractionMillis cs = n / 10 ^ (width - 3) := by
  have hRest : (cs.drop 3).length = width - 3 := by rw [List.length_drop, h.length]
  have hLess : natOfDigits (cs.drop 3) < 10 ^ (width - 3) :=
    hRest ▸ natOfDigits_lt_pow fun c hMem => h.digits c (List.mem_of_mem_drop hMem)
  have hValue : n = 10 ^ (width - 3) * natOfDigits (cs.take 3) + natOfDigits (cs.drop 3) := by
    rw [← hRest, ← natOfDigits_append, List.take_append_drop, h.value]
  rw [Date.fractionMillis, List.take_append_of_le_length (h.length ▸ hWidth), hValue,
    Nat.mul_add_div (Nat.pow_pos (by decide)), Nat.div_eq_of_lt hLess, Nat.add_zero]

end Spells

/-- The zone begins with the last sign, if no `Z` stands at the end. -/
theorem splitZone?_of_sign {sign : Char} {zone : List Char} (hSign : sign = '+' ∨ sign = '-')
    (hZone : ∀ c ∈ zone, c ≠ '+' ∧ c ≠ '-') {clock : List Char}
    (hNoZ : dropEnd? ['Z'] (clock ++ sign :: zone) = none) :
    splitZone? (clock ++ sign :: zone) =
      (readOffset? (sign :: zone)).map fun offset => (clock, some offset) := by
  have hTail : (clock ++ sign :: zone).reverse.takeWhile
      (fun c => !decide (c = '+' ∨ c = '-')) = zone.reverse := by
    rw [List.reverse_append, List.reverse_cons, List.append_assoc, List.singleton_append,
      List.takeWhile_append_of_pos, List.takeWhile_cons_of_neg, List.append_nil]
    · simp [hSign]
    · intro c hMem
      have hNot := hZone c (List.mem_reverse.mp hMem)
      simp [hNot.1, hNot.2]
  have hLength : (clock ++ sign :: zone).length - (zone.reverse.length + 1) = clock.length := by
    rw [List.length_append, List.length_cons, List.length_reverse]
    omega
  have hEnough : ¬ (clock ++ sign :: zone).length < zone.reverse.length + 1 := by
    rw [List.length_append, List.length_cons, List.length_reverse]
    omega
  rw [splitZone?, hNoZ]
  simp only [Bool.decide_or] at hTail ⊢
  rw [hTail, if_neg hEnough, hLength, List.drop_left, List.take_left]

/-- A zone that begins with a sign and has no sign and no `Z` behind it is split off. -/
theorem splitZone?_append {sign : Char} {zone : List Char} (hSign : sign = '+' ∨ sign = '-')
    (hZone : ∀ c ∈ zone, c ≠ '+' ∧ c ≠ '-' ∧ c ≠ 'Z') (clock : List Char) :
    splitZone? (clock ++ sign :: zone) =
      (readOffset? (sign :: zone)).map fun offset => (clock, some offset) := by
  have hNoZ : dropEnd? ['Z'] (clock ++ sign :: zone) = none := by
    rw [Option.eq_none_iff_forall_ne_some]
    intro rest hRest
    rw [dropEnd?_eq_some_iff] at hRest
    have hSuffix : ['Z'] <:+ sign :: zone :=
      List.suffix_of_suffix_length_le ⟨rest, hRest.symm⟩ ⟨clock, rfl⟩ (by simp)
    rcases List.mem_cons.mp (hSuffix.subset (List.mem_singleton_self 'Z')) with hEq | hMem
    · subst hEq
      exact absurd hSign (by decide)
    · exact (hZone 'Z' hMem).2.2 rfl
  exact splitZone?_of_sign hSign (fun c hMem => ⟨(hZone c hMem).1, (hZone c hMem).2.1⟩) hNoZ

/-- An offset with a colon is its sign, its hours and its minutes. -/
theorem readOffset?_clock {sign : Char} {hours minutes : List Char} {h m : Nat}
    (hHours : Spells hours 2 h) (hMinutes : Spells minutes 2 m) :
    readOffset? (sign :: (hours ++ ':' :: minutes)) =
      let offset : Int := (if sign = '-' then -1 else 1) * (h * 3600 + m * 60 : Nat)
      if offsetInRange offset then some offset else none := by
  have hNoColon {cs : List Char} {n : Nat} (hCs : Spells cs 2 n) : cs.filter (· != ':') = cs :=
    List.filter_eq_self.mpr fun c hMem => bne_iff_ne.mpr fun hEq =>
      hCs.not_mem (c := ':') rfl (hEq ▸ hMem)
  have hDigits : ((hours ++ ':' :: minutes).filter (· != ':')) = hours ++ minutes := by
    rw [List.filter_append, List.filter_cons_of_neg (by decide), hNoColon hHours, hNoColon hMinutes]
  have hAll : (hours ++ minutes).all Char.isDigit = true :=
    List.all_eq_true.mpr (List.forall_mem_append.mpr ⟨hHours.digits, hMinutes.digits⟩)
  have hLength : (hours ++ minutes).length = 4 := by
    rw [List.length_append, hHours.length, hMinutes.length]
  have hTake : (hours ++ minutes).take 2 = hours := List.take_left' hHours.length
  have hDrop : (hours ++ minutes).drop 2 = minutes := List.drop_left' hHours.length
  simp only [readOffset?, List.head?_cons, Option.some.injEq, List.drop_succ_cons, List.drop_zero, hDigits,
    hAll, hLength, hTake, hDrop, hHours.value, hMinutes.value]
  simp

/-- A sign, hours and minutes, which have the value of the offset. -/
def SpellsOffset (cs : List Char) (offset : Int) : Prop :=
  ∃ sign hours minutes h m, cs = sign :: (hours ++ ':' :: minutes) ∧ (sign = '+' ∨ sign = '-') ∧
    Spells hours 2 h ∧ Spells minutes 2 m ∧
    (if sign = '-' then -1 else 1) * ((h * 3600 + m * 60 : Nat) : Int) = offset

theorem offsetInRange_iff {offset : Int} :
    offsetInRange offset = true ↔ -86400 < offset ∧ offset < 86400 := by
  rw [offsetInRange, secondsPerDay, Bool.and_eq_true, decide_eq_true_iff, decide_eq_true_iff]

/-- Whole minutes are written as an offset that denotes them. -/
theorem spellsOffset_offsetText {offset : Int} (hMinutes : 60 ∣ offset)
    (hRange : offsetInRange offset = true) : SpellsOffset (offsetText ":" offset).toList offset := by
  rw [offsetInRange_iff] at hRange
  have hWhole : (offset.natAbs + 30) / 60 * 60 = offset.natAbs := by omega
  rw [offsetText]
  generalize (offset.natAbs + 30) / 60 = total at hWhole
  have hHours := spells_padded (by decide : 0 < 2) (by omega : total / 60 < 10 ^ 2)
  have hRest := spells_padded (by decide : 0 < 2) (by omega : total % 60 < 10 ^ 2)
  have hColon : ":".toList = [':'] := rfl
  simp only [String.toList_append, hColon, List.append_assoc, List.singleton_append]
  split
  · refine ⟨'-', _, _, _, _, List.singleton_append, .inr rfl, hHours, hRest, ?_⟩
    rw [if_pos rfl]
    omega
  · refine ⟨'+', _, _, _, _, List.singleton_append, .inl rfl, hHours, hRest, ?_⟩
    rw [if_neg (by decide)]
    omega

/-- An offset behind a time of day is split off whole. -/
theorem splitZone?_offset {zone : List Char} {offset : Int} (hZone : SpellsOffset zone offset)
    (hRange : offsetInRange offset = true) (clock : List Char) :
    splitZone? (clock ++ zone) = some (clock, some offset) := by
  obtain ⟨sign, hours, minutes, h, m, rfl, hSign, hHours, hMinutes, rfl⟩ := hZone
  have hNot : ∀ c ∈ hours ++ ':' :: minutes, c ≠ '+' ∧ c ≠ '-' ∧ c ≠ 'Z' := by
    have hDigit {c : Char} (hDigit : c.isDigit = true) : c ≠ '+' ∧ c ≠ '-' ∧ c ≠ 'Z' := by
      refine ⟨?_, ?_, ?_⟩ <;> · rintro rfl; cases hDigit
    intro c hMem
    rcases List.mem_append.mp hMem with hMem | hMem
    · exact hDigit (hHours.digits c hMem)
    · rcases List.mem_cons.mp hMem with rfl | hMem
      · decide
      · exact hDigit (hMinutes.digits c hMem)
  rw [splitZone?_append hSign hNot, readOffset?_clock hHours hMinutes]
  simp only [hRange, if_true, Option.map_some]

/-- Nothing, or a point and the digits of a fraction that begins with the milliseconds. -/
def SpellsFraction (cs : List Char) (millis : Nat) : Prop :=
  cs = [] ∧ millis = 0 ∨ ∃ digits, cs = '.' :: digits ∧ isDigits digits = true ∧
    fractionMillis digits = millis

/-- The fraction of a date is written with its milliseconds first. -/
theorem spellsFraction_fractionText {nanos : Nat} (h : nanos < 1000000000) :
    SpellsFraction (fractionText nanos).toList (nanos / 1000000) := by
  have hDigits {width n : Nat} (hWidth : 3 ≤ width) (hLess : n < 10 ^ width)
      (hMillis : n / 10 ^ (width - 3) = nanos / 1000000) :
      SpellsFraction ("." ++ padded width n).toList (nanos / 1000000) := by
    have hPadded := spells_padded (by omega) hLess
    exact .inr ⟨_, String.toList_append, hPadded.isDigits (by omega),
      (hPadded.fractionMillis hWidth).trans hMillis⟩
  rw [fractionText]
  split
  · next hZero => exact .inl ⟨rfl, by omega⟩
  · split
    · exact hDigits (by decide) (by omega) (by omega)
    · split
      · exact hDigits (by decide) (by omega) (by omega)
      · exact hDigits (by decide) (by omega) (by omega)

/-- A time of day is read with the fields it is written with. -/
theorem readClock?_spelled {hours minutes seconds fraction : List Char} {h m s millis : Nat}
    (hHours : Spells hours 2 h) (hMinutes : Spells minutes 2 m) (hSeconds : Spells seconds 2 s)
    (hFraction : SpellsFraction fraction millis) :
    readClock? (hours ++ ':' :: (minutes ++ ':' :: (seconds ++ fraction))) =
      ClockTime.ofParts? h m s (millis * 1000000) := by
  have hFields : (cutAt ':' (hours ++ ':' :: (minutes ++ ':' :: seconds))).mapM readClockField? =
      some [h, m, s] := by
    rw [cutAt_append (hHours.not_mem rfl), cutAt_append (hMinutes.not_mem rfl),
      cutAt_of_not_mem (hSeconds.not_mem rfl)]
    simp [hHours.readClockField?, hMinutes.readClockField?, hSeconds.readClockField?]
  have hNoPoint : '.' ∉ hours ++ ':' :: (minutes ++ ':' :: seconds) := by
    simp [hHours.not_mem (c := '.') rfl, hMinutes.not_mem (c := '.') rfl,
      hSeconds.not_mem (c := '.') rfl]
  rcases hFraction with ⟨rfl, rfl⟩ | ⟨digits, rfl, hDigits, rfl⟩
  · rw [List.append_nil, readClock?, splitFirst?_eq_none_iff.mpr hNoPoint]
    simp [hFields]
  · have hSplit : splitFirst? '.' (hours ++ ':' :: (minutes ++ ':' :: (seconds ++ '.' :: digits))) =
        some (hours ++ ':' :: (minutes ++ ':' :: seconds), digits) := by
      rw [← splitFirst?_append hNoPoint digits]
      simp only [List.append_assoc, List.cons_append]
    rw [readClock?, hSplit]
    simp [hDigits, hFields]

/-- A day is read with the parts it is written with. -/
theorem readDay?_spelled {timed : Bool} {year month day : List Char} {y m d : Nat}
    (hYear : Spells year 4 y) (hMonth : Spells month 2 m) (hDay : Spells day 2 d) :
    readDay? timed (year ++ '-' :: (month ++ '-' :: day)) = dayOf? y m d := by
  rw [readDay?, cutAt_append (hYear.not_mem rfl), cutAt_append (hMonth.not_mem rfl),
    cutAt_of_not_mem (hDay.not_mem rfl)]
  simp [hYear.isDigits, hMonth.isDigits, hDay.isDigits, hYear.length, hYear.value,
    hMonth.smallNat?, hDay.smallNat?]

/-- The exchange form has room for a date: its civil date has a year of four digits, its offset is one
of whole minutes, and it lies in no leap second. -/
structure Fits (d : Date) (c : Civil) : Prop where
  exists_civil : c.exists = true
  year : 0 ≤ c.year ∧ c.year < 10000
  day : c.toDay = d.day
  nanos : d.nanos < 1000000000
  minutes : 60 ∣ d.offset
  offset : offsetInRange d.offset = true
  within : d.inRange = true

namespace Fits

variable {d : Date} {c : Civil}

/-- The civil date of a date is the one that fits it. -/
theorem civil_eq (h : d.Fits c) : d.civil = c := by
  rw [civil, ← h.day, ofDay_toDay h.exists_civil]

theorem dayOf? (h : d.Fits c) : dayOf? c.year c.month c.day = some d.day := by
  have hRange : c.inRange = true := by
    have hYear := h.year
    rw [Civil.inRange, firstYear, lastYear, Bool.and_eq_true, decide_eq_true_iff, decide_eq_true_iff]
    omega
  simp [Calendar.dayOf?, h.exists_civil, hRange, h.day]

end Fits

/-- A date with a local year of four digits lies within the range of dates, whatever its offset is. -/
theorem inRange_of_year {d : Date} (hYear : 0 ≤ d.civil.year ∧ d.civil.year < 10000)
    (hOffset : offsetInRange d.offset = true) : d.inRange = true := by
  have hDay := toDay_bounds (exists_ofDay d.day) hYear
  rw [toDay_ofDay, day, localSeconds, Int.fdiv_eq_ediv_of_nonneg _ (by decide), secondsPerDay] at hDay
  rw [offsetInRange_iff] at hOffset
  have hStart : rangeStart ≤ -86400100000 := by decide
  have hEnd : 259200200000 ≤ rangeEnd := by decide
  rw [inRange, Bool.and_eq_true, decide_eq_true_iff, decide_eq_true_iff]
  omega

/-- The exchange form has room for every date with a local year of four digits, an offset of whole
minutes and no leap second. -/
theorem fits_civil {d : Date} (hYear : 0 ≤ d.civil.year ∧ d.civil.year < 10000)
    (hNanos : d.nanos < 1000000000) (hMinutes : 60 ∣ d.offset)
    (hOffset : offsetInRange d.offset = true) : d.Fits d.civil where
  exists_civil := exists_ofDay d.day
  year := hYear
  day := toDay_ofDay d.day
  nanos := hNanos
  minutes := hMinutes
  offset := hOffset
  within := inRange_of_year hYear hOffset

/-- The fields of every clock lie in their ranges. -/
theorem clock_bounds (d : Date) :
    d.clock.hour < 24 ∧ d.clock.minute < 60 ∧ d.clock.second < 60 := by
  have hDay := Int.fmod_lt_of_pos d.localSeconds (by decide : (0 : Int) < secondsPerDay)
  have hSeconds : d.clock.seconds < 86400 := by
    simp only [clock, secondsPerDay] at hDay ⊢
    omega
  exact ⟨Nat.div_lt_of_lt_mul hSeconds, Nat.mod_lt _ (by decide), Nat.mod_lt _ (by decide)⟩

/-- The seconds of a day are those of the parts that its clock shows. -/
theorem clock_ofParts? (d : Date) {nanos : Nat} (hNanos : nanos < 1000000000) :
    ClockTime.ofParts? d.clock.hour d.clock.minute d.clock.second nanos =
      some ⟨d.clock.seconds, nanos⟩ := by
  obtain ⟨hHour, hMinute, hSecond⟩ := clock_bounds d
  have hParts : d.clock.hour * 3600 + d.clock.minute * 60 + d.clock.second = d.clock.seconds := by
    rw [ClockTime.hour, ClockTime.minute, ClockTime.second]
    omega
  simp [ClockTime.ofParts?, hHour, hMinute, hSecond, hNanos, hParts]

/-- A date is put together again from its day and its time of day. -/
theorem ofLocal?_day (d : Date) (nanos : Nat) (hRange : d.inRange = true) :
    ofLocal? d.day ⟨d.clock.seconds, nanos⟩ d.offset = some { d with nanos } := by
  have hSeconds : d.day * secondsPerDay + d.clock.seconds - d.offset = d.seconds := by
    have hSplit := Int.mul_fdiv_add_fmod d.localSeconds secondsPerDay
    have hPositive := Int.fmod_nonneg_of_pos d.localSeconds (by decide : (0 : Int) < secondsPerDay)
    simp only [day, clock, localSeconds] at hSplit hPositive ⊢
    rw [Int.toNat_of_nonneg hPositive]
    rw [Int.mul_comm] at hSplit
    omega
  have hSame : inRange { d with nanos } = true := hRange
  rw [ofLocal?, hSeconds]
  exact if_pos hSame

variable {d : Date} {c : Civil}

/-- The exchange form, part by part. -/
theorem toList_isoText (h : d.Fits c) :
    d.isoText.toList =
      (padded 4 c.year.toNat).toList ++
          '-' :: ((padded 2 c.month).toList ++ '-' :: (padded 2 c.day).toList) ++
        'T' :: ((padded 2 d.clock.hour).toList ++
            ':' :: ((padded 2 d.clock.minute).toList ++
              ':' :: ((padded 2 d.clock.second).toList ++ (fractionText d.nanos).toList)) ++
          (offsetText ":" d.offset).toList) := by
  have hYear : yearText c.year = padded 4 c.year.toNat := if_pos h.year
  have hFraction : d.clock.nanos % 1000000000 = d.nanos := Nat.mod_eq_of_lt h.nanos
  have hSecond : shownSecond d.clock = d.clock.second :=
    Nat.add_eq_left.mpr (Nat.div_eq_of_lt h.nanos)
  have hDash : "-".toList = ['-'] := rfl
  have hTime : "T".toList = ['T'] := rfl
  have hColon : ":".toList = [':'] := rfl
  rw [isoText, h.civil_eq, hYear, hSecond, hFraction]
  simp only [String.toList_append, hDash, hTime, hColon, List.append_assoc, List.cons_append,
    List.nil_append]

/-- Year, month and day are written with four, two and two digits. -/
theorem Fits.spells_civil (h : d.Fits c) :
    Spells (padded 4 c.year.toNat).toList 4 c.year.toNat ∧
    Spells (padded 2 c.month).toList 2 c.month ∧ Spells (padded 2 c.day).toList 2 c.day := by
  obtain ⟨⟨_, hMonth⟩, _, hDay⟩ := exists_iff.mp h.exists_civil
  have hLength : monthLength c.year c.month ≤ 31 := by
    unfold monthLength
    split_ifs <;> decide
  have hYear := h.year
  exact ⟨spells_padded (by decide) (by omega), spells_padded (by decide) (by omega),
    spells_padded (by decide) (by omega)⟩

theorem spells_clock (d : Date) :
    Spells (padded 2 d.clock.hour).toList 2 d.clock.hour ∧
    Spells (padded 2 d.clock.minute).toList 2 d.clock.minute ∧
    Spells (padded 2 d.clock.second).toList 2 d.clock.second := by
  have hClock := clock_bounds d
  exact ⟨spells_padded (by decide) (by omega), spells_padded (by decide) (by omega),
    spells_padded (by decide) (by omega)⟩

/-- No blank stands at either end of the exchange form. -/
theorem trim_isoText (h : d.Fits c) : trim d.isoText.toList = d.isoText.toList := by
  have hYear := h.spells_civil.1
  obtain ⟨sign, hours, minutes, _, _, hZone, _, _, hMinutes, _⟩ :=
    spellsOffset_offsetText h.minutes h.offset
  have hText := toList_isoText h
  rw [hZone] at hText
  have hStart : (padded 4 c.year.toNat).toList <+: d.isoText.toList := by
    rw [hText, List.append_assoc]
    exact List.prefix_append _ _
  have hEnd : minutes <:+ d.isoText.toList := by
    rw [hText]
    exact (List.suffix_cons _ _).trans <| (List.suffix_append hours _).trans <|
      (List.suffix_cons _ _).trans <| (List.suffix_append _ _).trans <|
      (List.suffix_cons _ _).trans (List.suffix_append _ _)
  exact trim_of_ends (hYear.ne_nil (by decide)) (hMinutes.ne_nil (by decide)) hStart hEnd
    (fun x hMem => isBlank_of_isDigit (hYear.digits x hMem))
    fun x hMem => isBlank_of_isDigit (hMinutes.digits x hMem)

/-- The exchange form reads back, to the millisecond. -/
theorem ofLiteral?_isoText (h : d.Fits c) :
    ofLiteral? d.isoText = some { d with nanos := d.nanos / 1000000 * 1000000 } := by
  obtain ⟨hYear, hMonth, hDay⟩ := h.spells_civil
  obtain ⟨hHours, hMinutes, hSeconds⟩ := spells_clock d
  have hFraction := spellsFraction_fractionText h.nanos
  have hZone := spellsOffset_offsetText h.minutes h.offset
  have hNoTime : 'T' ∉ (padded 4 c.year.toNat).toList ++
      '-' :: ((padded 2 c.month).toList ++ '-' :: (padded 2 c.day).toList) := by
    simp [hYear.not_mem (c := 'T') rfl, hMonth.not_mem (c := 'T') rfl, hDay.not_mem (c := 'T') rfl]
  have hMillis : d.nanos / 1000000 * 1000000 < 1000000000 := by
    have hNanos := h.nanos
    omega
  have hDayRead : readDay? true ((padded 4 c.year.toNat).toList ++
      '-' :: ((padded 2 c.month).toList ++ '-' :: (padded 2 c.day).toList)) = some d.day := by
    rw [readDay?_spelled hYear hMonth hDay, Int.toNat_of_nonneg h.year.1, h.dayOf?]
  rw [ofLiteral?]
  simp only [trim_isoText h]
  rw [toList_isoText h, splitFirst?_append hNoTime]
  simp only [Option.bind_eq_bind, hDayRead, Option.bind_some, splitZone?_offset hZone h.offset,
    readClock?_spelled hHours hMinutes hSeconds hFraction, clock_ofParts? d hMillis]
  exact ofLocal?_day d _ h.within

/-- A day that is read is the day of a civil date that exists. -/
theorem exists_of_dayOf? {year : Int} {month n : Nat} {day : Int} (h : dayOf? year month n = some day) :
    ∃ c : Civil, c.exists = true ∧ c.year = year ∧ c.toDay = day := by
  rw [dayOf?, Option.ite_none_right_eq_some, Bool.and_eq_true, Option.some.injEq] at h
  exact ⟨_, h.1.1, rfl, h.2⟩

theorem digits_of_isDigits {cs : List Char} (h : isDigits cs = true) : ∀ c ∈ cs, c.isDigit = true := by
  rw [isDigits, Bool.and_eq_true, List.all_eq_true] at h
  exact h.2

/-- A day that is read has a year of four digits. -/
theorem exists_of_readDay? {timed : Bool} {cs : List Char} {day : Int}
    (h : readDay? timed cs = some day) :
    ∃ c : Civil, c.exists = true ∧ (0 ≤ c.year ∧ c.year < 10000) ∧ c.toDay = day := by
  have hYear {year : List Char} {month n : Nat} (hAll : isDigits year = true)
      (hLength : year.length = 4) (hDay : dayOf? (natOfDigits year) month n = some day) :
      ∃ c : Civil, c.exists = true ∧ (0 ≤ c.year ∧ c.year < 10000) ∧ c.toDay = day := by
    obtain ⟨c, hExists, hSame, hNumber⟩ := exists_of_dayOf? hDay
    have hLess := natOfDigits_lt_pow (digits_of_isDigits hAll)
    rw [hLength] at hLess
    exact ⟨c, hExists, by omega, hNumber⟩
  rw [readDay?] at h
  split at h
  · cases h
  · next hPieces =>
      rw [Bool.not_eq_true, Bool.not_eq_false', List.all_eq_true] at hPieces
      split at h
      · next year month hSplit =>
          split at h
          · cases h
          · next hForm =>
              obtain ⟨m, _, hDay⟩ := Option.bind_eq_some_iff.mp h
              exact hYear (hPieces year (by simp [hSplit])) (by simpa using (not_or.mp hForm).1) hDay
      · next year month dayOfMonth hSplit =>
          split at h
          · cases h
          · next hLength =>
              obtain ⟨m, _, hRest⟩ := Option.bind_eq_some_iff.mp h
              obtain ⟨n, _, hDay⟩ := Option.bind_eq_some_iff.mp hRest
              exact hYear (hPieces year (by simp [hSplit])) (by simpa using hLength) hDay
      · cases h

theorem fractionMillis_lt {digits : List Char} (hDigits : ∀ c ∈ digits, c.isDigit = true) :
    fractionMillis digits < 1000 := by
  have hAll : ∀ c ∈ (digits ++ ['0', '0', '0']).take 3, c.isDigit = true := by
    intro c hMem
    rcases List.mem_append.mp (List.mem_of_mem_take hMem) with hMem | hMem
    · exact hDigits c hMem
    · exact @Numeral.isDigit_of_mem_zeros 3 c hMem
  have hLess := natOfDigits_lt_pow hAll
  rwa [List.length_take_of_le (by simp)] at hLess

/-- A time of day that is read has whole milliseconds and lies in no leap second. -/
theorem bounds_of_readClock? {cs : List Char} {t : ClockTime} (h : readClock? cs = some t) :
    t.seconds < 86400 ∧ t.nanos < 1000000000 ∧ 1000000 ∣ t.nanos := by
  have hParts {hour minute second millis : Nat} (hMillis : millis < 1000)
      (hTime : ClockTime.ofParts? hour minute second (millis * 1000000) = some t) :
      t.seconds < 86400 ∧ t.nanos < 1000000000 ∧ 1000000 ∣ t.nanos := by
    simp only [ClockTime.ofParts?, Option.ite_none_right_eq_some, Bool.and_eq_true, decide_eq_true_iff,
      Option.some.injEq] at hTime
    obtain ⟨⟨⟨⟨hHour, hMinute⟩, hSecond⟩, _⟩, rfl⟩ := hTime
    dsimp only
    exact ⟨by omega, by omega, Nat.dvd_mul_left _ _⟩
  rw [readClock?] at h
  split at h
  · split at h
    · next hDigits =>
        obtain ⟨_, hEq, hRest⟩ := Option.bind_eq_some_iff.mp h
        cases hEq
        obtain ⟨numbers, _, hTime⟩ := Option.bind_eq_some_iff.mp hRest
        have hMillis := fractionMillis_lt (digits_of_isDigits hDigits)
        dsimp only at hTime
        split at hTime
        · exact hParts hMillis hTime
        · exact hParts hMillis hTime
        · exact hParts hMillis hTime
        · cases hTime
    · cases h
  · obtain ⟨_, hEq, hRest⟩ := Option.bind_eq_some_iff.mp h
    cases hEq
    obtain ⟨numbers, _, hTime⟩ := Option.bind_eq_some_iff.mp hRest
    dsimp only at hTime
    split at hTime
    · exact hParts (by decide) hTime
    · exact hParts (by decide) hTime
    · exact hParts (by decide) hTime
    · cases hTime

/-- An offset that is read is one of whole minutes. -/
theorem minutes_of_readOffset? {cs : List Char} {offset : Int} (h : readOffset? cs = some offset) :
    60 ∣ offset ∧ offsetInRange offset = true := by
  have hSize {sign : Int} {size : Nat} (hMinutes : 60 ∣ size)
      (hRange : (if offsetInRange (sign * size) then some (sign * size) else none) = some offset) :
      60 ∣ offset ∧ offsetInRange offset = true := by
    obtain ⟨hWithin, hEq⟩ := Option.ite_none_right_eq_some.mp hRange
    cases hEq
    exact ⟨(Int.natCast_dvd_natCast.mpr hMinutes).mul_left sign, hWithin⟩
  rw [readOffset?] at h
  dsimp only at h
  split at h
  · cases h
  · obtain ⟨size, hDigits, hRange⟩ := Option.bind_eq_some_iff.mp h
    refine hSize ?_ hRange
    split at hDigits
    · cases hDigits
      omega
    · obtain ⟨_, hEq⟩ := Option.ite_none_right_eq_some.mp hDigits
      cases hEq
      omega

/-- An offset that is split off is one of whole minutes below a day. -/
theorem minutes_of_splitZone? {cs clock : List Char} {offset : Int}
    (h : splitZone? cs = some (clock, some offset)) : 60 ∣ offset ∧ offsetInRange offset = true := by
  rw [splitZone?] at h
  split at h
  · cases h
    decide
  · dsimp only at h
    split at h
    · cases h
    · obtain ⟨offset, hRead, hEq⟩ := Option.map_eq_some_iff.mp h
      cases hEq
      exact minutes_of_readOffset? hRead

/-- A date that a literal stands for fits a civil date and has whole milliseconds. -/
theorem fits_of_ofLocal? {day : Int} {t : ClockTime} {offset : Int} (hExists : c.exists = true)
    (hYear : 0 ≤ c.year ∧ c.year < 10000) (hDay : c.toDay = day)
    (hTime : t.seconds < 86400 ∧ t.nanos < 1000000000 ∧ 1000000 ∣ t.nanos)
    (hOffset : 60 ∣ offset ∧ offsetInRange offset = true) (h : ofLocal? day t offset = some d) :
    d.Fits c ∧ 1000000 ∣ d.nanos := by
  obtain ⟨hRange, hEq⟩ := Option.ite_none_right_eq_some.mp h
  cases hEq
  refine ⟨⟨hExists, hYear, ?_, hTime.2.1, hOffset.1, hOffset.2, hRange⟩, hTime.2.2⟩
  have hClock := hTime.1
  rw [hDay, Date.day, localSeconds, Int.fdiv_eq_ediv_of_nonneg _ (by decide), secondsPerDay]
  dsimp only
  omega

/-- In world time an offset that is not given is zero. -/
theorem localize?_worldTime (day : Int) (time : ClockTime) (offset? : Option Int) :
    localize? worldTime day time offset? = ofLocal? day time (offset?.getD 0) := by
  cases offset? <;> rfl

/-- What a literal stands for has an exchange form that keeps all of it. -/
theorem fits_of_ofLiteral? {text : String} (h : ofLiteral? text = some d) :
    ∃ c, d.Fits c ∧ 1000000 ∣ d.nanos := by
  rw [ofLiteral?] at h
  dsimp only at h
  split at h
  · obtain ⟨day, hRead, hLocal⟩ := Option.bind_eq_some_iff.mp h
    obtain ⟨c, hExists, hYear, hDay⟩ := exists_of_readDay? hRead
    rw [localize?_worldTime] at hLocal
    exact ⟨c, fits_of_ofLocal? hExists hYear hDay (by decide) (by decide) hLocal⟩
  · next timePart _ =>
      obtain ⟨day, hRead, hRest⟩ := Option.bind_eq_some_iff.mp h
      obtain ⟨⟨clock, offset?⟩, hSplit, hTimed⟩ := Option.bind_eq_some_iff.mp hRest
      obtain ⟨t, hClock, hLocal⟩ := Option.bind_eq_some_iff.mp hTimed
      obtain ⟨c, hExists, hYear, hDay⟩ := exists_of_readDay? hRead
      have hMinutes : 60 ∣ offset?.getD 0 ∧ offsetInRange (offset?.getD 0) = true := by
        cases offset? with
        | none => decide
        | some offset => exact minutes_of_splitZone? hSplit
      rw [localize?_worldTime] at hLocal
      exact ⟨c, fits_of_ofLocal? hExists hYear hDay (bounds_of_readClock? hClock) hMinutes hLocal⟩

end DocQuery.Date
