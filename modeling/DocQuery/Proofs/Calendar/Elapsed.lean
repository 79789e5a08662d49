import DocQuery.Calendar.Date

/-!
Elapsed time. Outside of leap seconds a date stands for its nanoseconds since 1970, and moving it adds to
them. A step ends in a leap second only when it begins in the same one.
-/

namespace DocQuery.Date

/-- A date in range whose time is a whole number of milliseconds. -/
structure WholeMillis (d : Date) : Prop where
  inRange : d.inRange = true
  nanos : d.nanos < 2000000000
  whole : d.nanos % 1000000 = 0

theorem inLeapSecond_iff {d : Date} : d.inLeapSecond = true ↔ 1000000000 ≤ d.nanos := by
  rw [inLeapSecond, decide_eq_true_eq, nanosPerSecond]
  omega

theorem inLeapSecond_eq_false_iff {d : Date} : d.inLeapSecond = false ↔ d.nanos < 1000000000 := by
  rw [← Bool.not_eq_true, inLeapSecond_iff, Nat.not_le]

variable {d e : Date} {n : Int}

/-- The second and the nanoseconds of a date outside of leap seconds. -/
theorem split_instant (h : d.inLeapSecond = false) :
    d.instant.fdiv nanosPerSecond = d.seconds ∧ (d.instant.fmod nanosPerSecond).toNat = d.nanos := by
  rw [inLeapSecond_eq_false_iff] at h
  rw [Int.fdiv_eq_ediv_of_nonneg _ (by decide), Int.fmod_eq_emod_of_nonneg _ (by decide), instant,
    nanosPerSecond]
  omega

/-- Out of a leap second, time moves on as nanoseconds are counted. -/
theorem moved_of_inLeapSecond_eq_false (h : d.inLeapSecond = false) : d.moved n =
    { d with
      seconds := (d.instant + n).fdiv nanosPerSecond
      nanos := ((d.instant + n).fmod nanosPerSecond).toNat } := by
  simp [moved, h]

/-- A step between dates outside of leap seconds arrives where its nanoseconds lead. -/
theorem addNanos?_eq_some (hd : d.inLeapSecond = false) (he : e.inLeapSecond = false)
    (hRange : e.inRange = true) (h : d.instant + n = e.instant) :
    d.addNanos? n = some { e with offset := d.offset } := by
  have hMoved : d.moved n = { e with offset := d.offset } := by
    rw [moved_of_inLeapSecond_eq_false hd, h, (split_instant he).1, (split_instant he).2]
  rw [addNanos?]
  split
  · next hZero =>
      rw [← hMoved, moved_of_inLeapSecond_eq_false hd, hZero, Int.add_zero, (split_instant hd).1,
        (split_instant hd).2]
  · rw [hMoved]
    exact if_pos hRange

/-- A step ends in a leap second only when it begins there. -/
theorem seconds_eq_of_addNanos? (h : d.addNanos? n = some e) (he : e.inLeapSecond = true) :
    d.inLeapSecond = true ∧ d.seconds = e.seconds := by
  rw [addNanos?] at h
  split at h
  · obtain rfl := Option.some.inj h
    exact ⟨he, rfl⟩
  · split at h
    · obtain rfl := Option.some.inj h
      rw [inLeapSecond_iff, moved] at he
      rw [moved]
      split
      · next hInside =>
          simp only [Bool.and_eq_true] at hInside
          exact ⟨hInside.1.1, rfl⟩
      · next hOutside =>
          -- Outside of a leap second the nanoseconds are a remainder.
          rw [if_neg hOutside] at he
          dsimp only at he
          rw [Int.fmod_eq_emod_of_nonneg _ (by decide : (0 : Int) ≤ nanosPerSecond), nanosPerSecond] at he
          omega
    · cases h

/-- A step inside of a leap second. -/
theorem addNanos?_inside (hd : d.inLeapSecond = true) (he : e.inLeapSecond = true)
    (hEnd : e.nanos < 2000000000) (hSame : d.seconds = e.seconds) (hRange : d.inRange = true)
    (h : d.nanos + n = e.nanos) : d.addNanos? n = some { e with offset := d.offset } := by
  have hStart := inLeapSecond_iff.mp he
  rw [addNanos?]
  split
  · next hZero =>
      obtain rfl := hZero
      obtain ⟨seconds, nanos, offset⟩ := d
      obtain ⟨_, other, _⟩ := e
      dsimp only at h hSame ⊢
      obtain rfl := hSame
      obtain rfl : nanos = other := by omega
      rfl
  · have hInside : nanosPerSecond ≤ d.nanos + n ∧ d.nanos + n < leapEnd := by
      rw [leapEnd, nanosPerSecond]
      omega
    have hMoved : d.moved n = { e with offset := d.offset } := by
      rw [moved, if_pos (by simpa [hd] using hInside), h, hSame, Int.toNat_natCast]
    rw [hMoved]
    refine if_pos ?_
    rw [inRange] at hRange ⊢
    rwa [← hSame]

/-- Between two dates out of leap seconds, or within the same one, no leap second is counted. -/
theorem leapBetween_eq_zero (h : d.inLeapSecond = e.inLeapSecond)
    (hSame : d.inLeapSecond = true → d.seconds = e.seconds) : leapBetween d e = 0 := by
  rw [leapBetween]
  dsimp only
  cases hd : d.inLeapSecond with
  | false => simp [← h, hd]
  | true => simp [hSame hd]

/-- Whole milliseconds between dates are exact. -/
theorem millisSince_mul (hd : d.WholeMillis) (he : e.WholeMillis) :
    d.millisSince e * nanosPerMilli = d.instant - e.instant + leapBetween d e * nanosPerSecond := by
  have hLeft := hd.whole
  have hRight := he.whole
  rw [millisSince]
  refine Int.tdiv_mul_cancel ?_
  rw [instant, instant, nanosPerMilli, nanosPerSecond]
  omega

end DocQuery.Date
