import DocQuery.Proofs.Calendar.Elapsed
import DocQuery.Proofs.Duration.Split

/-!
The difference of two dates undoes itself. It is split into whole counts, whose length is the time between
the dates, and moving one of the dates by it arrives at the other, unless a leap second is left or entered on
the way.
-/

namespace DocQuery.Date

open Number Duration

variable {l r : Date}

def differenceCounts (l r : Date) (unit : DurationUnit) : Int :=
  sideOf (l.millisSince r) * wholeCount (l.millisSince r).natAbs unit

/-- The difference of two dates has the whole counts of their milliseconds. -/
theorem hasCounts_difference (hSize : (l.millisSince r).natAbs ≤ 2 ^ 53) :
    (difference l r).HasCounts (differenceCounts l r) :=
  hasCounts_ofMillis (denotes_ofInt hSize) hSize

/-- Adding a difference moves a date by its milliseconds. -/
theorem shift?_difference_one (hSize : (l.millisSince r).natAbs ≤ 2 ^ 53) (d : Date) :
    d.shift? (difference l r) 1 = d.addNanos? (l.millisSince r * nanosPerMilli) := by
  rw [shift?_eq_addNanos? (splitsMillis_wholeCount _) hSize (hasCounts_difference hSize) denotes_one
    (.inl rfl), Int.one_mul]

/-- Taking a difference away moves a date back by its milliseconds. -/
theorem shift?_difference_neg_one (hSize : (l.millisSince r).natAbs ≤ 2 ^ 53) (d : Date) :
    d.shift? (difference l r) (-1) = d.addNanos? (-(l.millisSince r * nanosPerMilli)) := by
  rw [shift?_eq_addNanos? (splitsMillis_wholeCount _) hSize (hasCounts_difference hSize) denotes_one.neg
    (.inr rfl), Int.neg_one_mul, Int.neg_mul]

/-- Neither date lies in a leap second, or both lie in the same one. -/
def SameFlow (l r : Date) : Prop :=
  l.inLeapSecond = r.inLeapSecond ∧ (l.inLeapSecond = true → l.seconds = r.seconds)

theorem SameFlow.symm (h : SameFlow l r) : SameFlow r l :=
  ⟨h.1.symm, fun hLeap => (h.2 (h.1.trans hLeap)).symm⟩

/-- Without a leap second between them, the nanoseconds between two dates lead from one to the other. -/
theorem addNanos?_instant (h : SameFlow l r) (hl : l.WholeMillis) (hr : r.WholeMillis) :
    r.addNanos? (l.instant - r.instant) = some { l with offset := r.offset } := by
  cases hLeap : l.inLeapSecond with
  | false =>
      exact addNanos?_eq_some (h.1.symm.trans hLeap) hLeap hl.inRange (by omega)
  | true =>
      have hSeconds := h.2 hLeap
      refine addNanos?_inside (h.1.symm.trans hLeap) hLeap hl.nanos hSeconds.symm hr.inRange ?_
      rw [instant, instant, hSeconds]
      omega

/-- A leap second that is left or entered is not found again. -/
theorem sameFlow_of_addNanos? {n m : Int} {a b : Int}
    (hForward : r.addNanos? n = some { l with offset := a })
    (hBack : l.addNanos? m = some { r with offset := b }) : SameFlow l r := by
  have hLeft (hLeap : l.inLeapSecond = true) := seconds_eq_of_addNanos? hForward hLeap
  have hRight (hLeap : r.inLeapSecond = true) := seconds_eq_of_addNanos? hBack hLeap
  refine ⟨?_, fun hLeap => (hLeft hLeap).2.symm⟩
  rw [Bool.eq_iff_iff]
  exact ⟨fun hLeap => (hLeft hLeap).1, fun hLeap => (hRight hLeap).1⟩

/-- The difference of two dates in whole milliseconds is split into days and smaller units, and its length is
the time between them. Moving either date by it arrives at the other exactly when no leap second is left or
entered. -/
theorem shift?_difference (hl : l.WholeMillis) (hr : r.WholeMillis)
    (hSize : (l.millisSince r).natAbs ≤ 2 ^ 53) :
    (∃ counts, (difference l r).HasCounts counts ∧ SplitsMillis counts (l.millisSince r)) ∧
    Denotes (difference l r).toMillis (l.millisSince r) ∧
    l.millisSince r * nanosPerMilli = l.instant - r.instant + leapBetween l r * nanosPerSecond ∧
    (r.shift? (difference l r) 1 = some { l with offset := r.offset } ∧
        l.shift? (difference l r) (-1) = some { r with offset := l.offset } ↔ SameFlow l r) := by
  have hCounts := hasCounts_difference hSize
  have hSplit := splitsMillis_wholeCount (l.millisSince r)
  have hExact := millisSince_mul hl hr
  refine ⟨⟨_, hCounts, hSplit⟩, denotes_toMillis hSplit hSize hCounts, hExact, ?_⟩
  rw [shift?_difference_one hSize, shift?_difference_neg_one hSize]
  constructor
  · rintro ⟨hForward, hBack⟩
    exact sameFlow_of_addNanos? hForward hBack
  · intro hFlow
    rw [leapBetween_eq_zero hFlow.1 hFlow.2, Int.zero_mul, Int.add_zero] at hExact
    have hOther : -(l.millisSince r * nanosPerMilli) = r.instant - l.instant := by
      rw [hExact, Int.neg_sub]
    exact ⟨hExact ▸ addNanos?_instant hFlow hl hr, hOther ▸ addNanos?_instant hFlow.symm hr hl⟩

/-- Half a second before the end of 2016, as a clock to the west shows it. -/
def endOf2016 : Date := ⟨1483228799, 500000000, -5400⟩

/-- Half a second into the leap second at the end of 2016. -/
def leapOf2016 : Date := ⟨1483228799, 1500000000, 0⟩

/-- Ten seconds into 2017, as a clock to the east shows it. -/
def startOf2017 : Date := ⟨1483228810, 0, 3600⟩

theorem wholeMillis_endOf2016 : endOf2016.WholeMillis := ⟨by decide, by decide, by decide⟩

theorem wholeMillis_leapOf2016 : leapOf2016.WholeMillis := ⟨by decide, by decide, by decide⟩

theorem wholeMillis_startOf2017 : startOf2017.WholeMillis := ⟨by decide, by decide, by decide⟩

/-- Behind the end of 2016 comes the start of 2017, shown at the offset of the former. -/
theorem shift?_difference_startOf2017 :
    startOf2017.WholeMillis ∧ endOf2016.WholeMillis ∧
    (startOf2017.millisSince endOf2016).natAbs ≤ 2 ^ 53 ∧
    endOf2016.shift? (difference startOf2017 endOf2016) 1 = some { startOf2017 with offset := -5400 } ∧
    startOf2017.shift? (difference startOf2017 endOf2016) (-1) = some { endOf2016 with offset := 3600 } := by
  have hSize : (startOf2017.millisSince endOf2016).natAbs ≤ 2 ^ 53 := by decide
  refine ⟨wholeMillis_startOf2017, wholeMillis_endOf2016, hSize, ?_⟩
  exact (shift?_difference wholeMillis_startOf2017 wholeMillis_endOf2016 hSize).2.2.2.mpr
    ⟨by decide, by decide⟩

/-- A step out of a leap second does not count what is left of it. -/
theorem shift?_difference_leapOf2016 :
    startOf2017.WholeMillis ∧ leapOf2016.WholeMillis ∧
    (startOf2017.millisSince leapOf2016).natAbs ≤ 2 ^ 53 ∧
    leapOf2016.shift? (difference startOf2017 leapOf2016) 1 = some ⟨1483228809, 0, 0⟩ ∧
    leapOf2016.shift? (difference startOf2017 leapOf2016) 1 ≠ some { startOf2017 with offset := 0 } := by
  have hSize : (startOf2017.millisSince leapOf2016).natAbs ≤ 2 ^ 53 := by decide
  have hMoved : leapOf2016.shift? (difference startOf2017 leapOf2016) 1 = some ⟨1483228809, 0, 0⟩ := by
    rw [shift?_difference_one hSize]
    decide
  refine ⟨wholeMillis_startOf2017, wholeMillis_leapOf2016, hSize, hMoved, ?_⟩
  rw [hMoved]
  decide

end DocQuery.Date
