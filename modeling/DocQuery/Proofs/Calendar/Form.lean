import DocQuery.Proofs.Calendar.Literal

/-!
Which texts are date literals. A literal is taken apart as it is written: the year, the month, the day of
the month, the fields of the clock with a fraction, and the zone. What is read is described twice, as the
readers take it and as it is meant; the two differ in three places, where the readers are looser.
-/

namespace DocQuery.Date

open Calendar Text

/-! ### Literals as they are written -/

inductive ZoneText where
  | none
  | worldTime
  | offset (sign : Char) (size : List Char)

/-- The time of day of a literal as it is written. -/
structure TimeText where
  fields : List (List Char)
  fraction : Option (List Char)
  zone : ZoneText

/-- A literal as it is written. Only a day of the month has a time of day behind it. -/
structure LiteralText where
  year : List Char
  month : List Char
  day : Option (List Char × Option TimeText)

def ZoneText.chars : ZoneText → List Char
  | none => []
  | worldTime => ['Z']
  | offset sign size => sign :: size

/-- The characters of a clock: its fields with colons between them, and a fraction behind a point. -/
def clockChars (fields : List (List Char)) (fraction : Option (List Char)) : List Char :=
  [':'].intercalate fields ++ (fraction.map ('.' :: ·)).getD []

def TimeText.chars (t : TimeText) : List Char := clockChars t.fields t.fraction ++ t.zone.chars

def dayChars (year month : List Char) (day : Option (List Char)) : List Char :=
  year ++ '-' :: (month ++ (day.map ('-' :: ·)).getD [])

def LiteralText.chars (l : LiteralText) : List Char :=
  dayChars l.year l.month (l.day.map Prod.fst) ++
    ((l.day.bind Prod.snd).map fun t => 'T' :: t.chars).getD []

/-! ### What is read -/

/-- A field of the clock or of an offset: two digits. -/
def IsField (cs : List Char) : Prop := cs.length = 2 ∧ isDigits cs = true

instance : DecidablePred IsField := fun cs => inferInstanceAs (Decidable (cs.length = 2 ∧ isDigits cs = true))

/-- Hours, minutes and seconds that a clock shows, as far as they are given. -/
def IsClock : List Nat → Prop
  | [hour] => hour < 24
  | [hour, minute] => hour < 24 ∧ minute < 60
  | [hour, minute, second] => hour < 24 ∧ minute < 60 ∧ second < 60
  | _ => False

def offsetDigits (size : List Char) : List Char := size.filter (· != ':')

def offsetSeconds (digits : List Char) : Nat :=
  natOfDigits (digits.take 2) * 3600 + natOfDigits (digits.drop 2) * 60

/-- The zones that are read: the digits of an offset are two or four, denote less than a day, and have
colons anywhere. -/
def ZoneText.Accepted : ZoneText → Prop
  | none => True
  | worldTime => True
  | offset sign size =>
    (sign = '+' ∨ sign = '-') ∧ (∀ c ∈ offsetDigits size, c.isDigit = true) ∧
      ((offsetDigits size).length = 2 ∨ (offsetDigits size).length = 4) ∧
      offsetSeconds (offsetDigits size) < 86400

/-- The clocks that are read: a fraction may stand behind any field. -/
def IsClockText (fields : List (List Char)) (fraction : Option (List Char)) : Prop :=
  (∀ field ∈ fields, IsField field) ∧ IsClock (fields.map natOfDigits) ∧
    ∀ digits ∈ fraction, isDigits digits = true

/-- The civil date that a year, a month and a day of the month name; without a day it is the first. -/
def civilOf (year month : List Char) (day : Option (List Char)) : Civil :=
  ⟨natOfDigits year, natOfDigits month, (day.map natOfDigits).getD 1⟩

/-- The days that are read: the year has four digits, the month and the day have any number of them. -/
structure IsDayText (year month : List Char) (day : Option (List Char)) : Prop where
  ofYear : year.length = 4 ∧ isDigits year = true
  ofMonth : isDigits month = true
  ofDay : ∀ digits ∈ day, isDigits digits = true
  real : (civilOf year month day).exists = true

/-- The literals that are read. -/
structure LiteralText.Accepted (l : LiteralText) : Prop where
  day : IsDayText l.year l.month (l.day.map Prod.fst)
  time : ∀ t ∈ l.day.bind Prod.snd, IsClockText t.fields t.fraction ∧ t.zone.Accepted

/-! ### What is meant -/

/-- The zones that are meant: none, `Z`, or a sign with `hh`, `hhmm` or `hh:mm` that is less than a day. -/
inductive ZoneText.Documented : ZoneText → Prop where
  | none : Documented .none
  | worldTime : Documented .worldTime
  | hours {sign : Char} {hh : List Char} (hSign : sign = '+' ∨ sign = '-') (hHours : IsField hh)
      (hDay : natOfDigits hh * 3600 < 86400) : Documented (.offset sign hh)
  | joined {sign : Char} {hh mm : List Char} (hSign : sign = '+' ∨ sign = '-') (hHours : IsField hh)
      (hMinutes : IsField mm) (hDay : natOfDigits hh * 3600 + natOfDigits mm * 60 < 86400) :
      Documented (.offset sign (hh ++ mm))
  | apart {sign : Char} {hh mm : List Char} (hSign : sign = '+' ∨ sign = '-') (hHours : IsField hh)
      (hMinutes : IsField mm) (hDay : natOfDigits hh * 3600 + natOfDigits mm * 60 < 86400) :
      Documented (.offset sign (hh ++ ':' :: mm))

/-- The times of day that are meant: `hh`, `hh:mm`, `hh:mm:ss`, or `hh:mm:ss` with a fraction, and a zone. -/
structure TimeText.Documented (t : TimeText) : Prop where
  fields : ∀ field ∈ t.fields, IsField field
  real : IsClock (t.fields.map natOfDigits)
  fraction : ∀ digits ∈ t.fraction, isDigits digits = true ∧ t.fields.length = 3
  zone : t.zone.Documented

/-- The literals that are meant: `YYYY-MM` or `YYYY-MM-DD` that names a real date, the latter with a time
of day or without one. -/
structure LiteralText.Documented (l : LiteralText) : Prop where
  year : l.year.length = 4 ∧ isDigits l.year = true
  month : IsField l.month
  day : ∀ digits ∈ l.day.map Prod.fst, IsField digits
  real : (civilOf l.year l.month (l.day.map Prod.fst)).exists = true
  time : ∀ t ∈ l.day.bind Prod.snd, t.Documented

/-! ### Where the two differ -/

/-- The zones with colons where none are meant: there may be one, between hours and minutes. -/
def ZoneText.Loose : ZoneText → Prop
  | offset _ size =>
    size ≠ offsetDigits size ∧
      ¬((offsetDigits size).length = 4 ∧
        size = (offsetDigits size).take 2 ++ ':' :: (offsetDigits size).drop 2)
  | _ => False

/-- The literals with a month or a day that has not two digits, with a fraction that stands not behind
seconds, or with colons where none are meant. -/
def LiteralText.Loose (l : LiteralText) : Prop :=
  l.month.length ≠ 2 ∨ (∃ digits ∈ l.day.map Prod.fst, digits.length ≠ 2) ∨
    ∃ t ∈ l.day.bind Prod.snd, t.fraction.isSome = true ∧ t.fields.length ≠ 3 ∨ t.zone.Loose

theorem offsetDigits_of_digits {digits : List Char} (h : ∀ c ∈ digits, c.isDigit = true) :
    offsetDigits digits = digits :=
  List.filter_eq_self.mpr fun c hMem => bne_iff_ne.mpr fun hColon => by
    have hDigit := h c hMem
    rw [hColon] at hDigit
    cases hDigit

/-- The colon between the hours and the minutes is thrown away. -/
theorem offsetDigits_append_cons {hours minutes : List Char} (hHours : ∀ c ∈ hours, c.isDigit = true)
    (hMinutes : ∀ c ∈ minutes, c.isDigit = true) :
    offsetDigits (hours ++ ':' :: minutes) = hours ++ minutes := by
  rw [offsetDigits, List.filter_append, List.filter_cons_of_neg (by decide)]
  exact congrArg₂ _ (offsetDigits_of_digits hHours) (offsetDigits_of_digits hMinutes)

theorem IsField.digits {cs : List Char} (h : IsField cs) : ∀ c ∈ cs, c.isDigit = true :=
  digits_of_isDigits h.2

/-- Hours alone denote their seconds. -/
theorem offsetSeconds_of_field {hours : List Char} (h : IsField hours) :
    offsetSeconds hours = natOfDigits hours * 3600 := by
  have hNothing : natOfDigits [] = 0 := rfl
  rw [offsetSeconds, List.take_of_length_le h.1.le, List.drop_of_length_le h.1.le, hNothing, Nat.zero_mul,
    Nat.add_zero]

/-- Hours and minutes denote their seconds together. -/
theorem offsetSeconds_append {hours minutes : List Char} (h : IsField hours) :
    offsetSeconds (hours ++ minutes) = natOfDigits hours * 3600 + natOfDigits minutes * 60 := by
  rw [offsetSeconds, List.take_left' h.1, List.drop_left' h.1]

/-- What is meant by a zone is read, and what else is read has colons where none are meant. -/
theorem ZoneText.documented_iff {z : ZoneText} : z.Documented ↔ z.Accepted ∧ ¬z.Loose := by
  constructor
  · intro h
    cases h with
    | none => exact ⟨trivial, id⟩
    | worldTime => exact ⟨trivial, id⟩
    | hours hSign hHours hDay =>
        have hDigits := offsetDigits_of_digits hHours.digits
        rw [Accepted, Loose, hDigits, offsetSeconds_of_field hHours]
        exact ⟨⟨hSign, hHours.digits, .inl hHours.1, hDay⟩, fun h => h.1 rfl⟩
    | @joined sign hh mm hSign hHours hMinutes hDay =>
        have hDigits : ∀ c ∈ hh ++ mm, c.isDigit = true :=
          List.forall_mem_append.mpr ⟨hHours.digits, hMinutes.digits⟩
        have hLength : (hh ++ mm).length = 4 := by rw [List.length_append, hHours.1, hMinutes.1]
        rw [Accepted, Loose, offsetDigits_of_digits hDigits, offsetSeconds_append hHours]
        exact ⟨⟨hSign, hDigits, .inr hLength, hDay⟩, fun h => h.1 rfl⟩
    | @apart sign hh mm hSign hHours hMinutes hDay =>
        have hDigits := offsetDigits_append_cons hHours.digits hMinutes.digits
        have hLength : (hh ++ mm).length = 4 := by rw [List.length_append, hHours.1, hMinutes.1]
        rw [Accepted, Loose, hDigits, offsetSeconds_append hHours, List.take_left' hHours.1,
          List.drop_left' hHours.1]
        exact ⟨⟨hSign, List.forall_mem_append.mpr ⟨hHours.digits, hMinutes.digits⟩, .inr hLength, hDay⟩,
          fun h => h.2 ⟨hLength, rfl⟩⟩
  · rintro ⟨hAccepted, hTidy⟩
    cases z with
    | none => exact .none
    | worldTime => exact .worldTime
    | offset sign size =>
        obtain ⟨hSign, hDigits, hLength, hDay⟩ := hAccepted
        have hForm := or_iff_not_and_not.mpr hTidy
        generalize offsetDigits size = digits at hDigits hLength hDay hForm
        have isField {part : List Char} (hPart : part.length = 2) (hMem : ∀ c ∈ part, c ∈ digits) :
            IsField part := by
          have hSome : part ≠ [] := List.ne_nil_of_length_pos (hPart.symm ▸ Nat.two_pos)
          exact ⟨hPart, by simpa [isDigits, hSome] using fun c hIn => hDigits c (hMem c hIn)⟩
        rcases hLength with hTwo | hFour
        · have hHours := isField hTwo fun c hIn => hIn
          rw [offsetSeconds_of_field hHours] at hDay
          rcases hForm with rfl | ⟨hFour, -⟩
          · exact .hours hSign hHours hDay
          · omega
        · have hHours := isField (show (digits.take 2).length = 2 by simp [hFour]) fun c => List.mem_of_mem_take
          have hMinutes :=
            isField (show (digits.drop 2).length = 2 by simp [hFour]) fun c => List.mem_of_mem_drop
          rcases hForm with rfl | ⟨-, hApart⟩
          · rw [← List.take_append_drop 2 size]
            exact .joined hSign hHours hMinutes hDay
          · rw [hApart]
            exact .apart hSign hHours hMinutes hDay

/-- A time of day is one that is meant exactly when it is read and not loose. -/
theorem TimeText.documented_iff {t : TimeText} :
    t.Documented ↔ (IsClockText t.fields t.fraction ∧ t.zone.Accepted) ∧
      ¬(t.fraction.isSome = true ∧ t.fields.length ≠ 3 ∨ t.zone.Loose) := by
  constructor
  · rintro ⟨hFields, hReal, hFraction, hZone⟩
    obtain ⟨hAccepted, hTidy⟩ := ZoneText.documented_iff.mp hZone
    refine ⟨⟨⟨hFields, hReal, fun digits hMem => (hFraction digits hMem).1⟩, hAccepted⟩, ?_⟩
    rintro (⟨hSome, hLength⟩ | hLoose)
    · obtain ⟨digits, hMem⟩ := Option.isSome_iff_exists.mp hSome
      exact hLength (hFraction digits hMem).2
    · exact hTidy hLoose
  · rintro ⟨⟨⟨hFields, hReal, hFraction⟩, hAccepted⟩, hTidy⟩
    obtain ⟨hPlace, hZone⟩ := not_or.mp hTidy
    refine ⟨hFields, hReal, fun digits hMem => ⟨hFraction digits hMem, ?_⟩,
      ZoneText.documented_iff.mpr ⟨hAccepted, hZone⟩⟩
    by_contra hLength
    exact hPlace ⟨Option.isSome_iff_exists.mpr ⟨digits, hMem⟩, hLength⟩

/-- What is meant by a literal is read, and what else is read is loose. -/
theorem LiteralText.documented_iff {l : LiteralText} : l.Documented ↔ l.Accepted ∧ ¬l.Loose := by
  constructor
  · rintro ⟨hYear, hMonth, hDay, hReal, hTime⟩
    refine ⟨⟨⟨hYear, hMonth.2, fun digits hMem => (hDay digits hMem).2, hReal⟩,
      fun t hMem => (TimeText.documented_iff.mp (hTime t hMem)).1⟩, ?_⟩
    rintro (hLength | ⟨digits, hMem, hLength⟩ | ⟨t, hMem, hLoose⟩)
    · exact hLength hMonth.1
    · exact hLength (hDay digits hMem).1
    · exact (TimeText.documented_iff.mp (hTime t hMem)).2 hLoose
  · rintro ⟨⟨⟨hYear, hMonth, hDay, hReal⟩, hTime⟩, hTidy⟩
    obtain ⟨hMonthTidy, hRest⟩ := not_or.mp hTidy
    obtain ⟨hDayTidy, hTimeTidy⟩ := not_or.mp hRest
    refine ⟨hYear, ⟨not_not.mp hMonthTidy, hMonth⟩, fun digits hMem => ⟨?_, hDay digits hMem⟩, hReal,
      fun t hMem => TimeText.documented_iff.mpr ⟨hTime t hMem, fun hLoose => hTimeTidy ⟨t, hMem, hLoose⟩⟩⟩
    by_contra hLength
    exact hDayTidy ⟨digits, hMem, hLength⟩

end DocQuery.Date
