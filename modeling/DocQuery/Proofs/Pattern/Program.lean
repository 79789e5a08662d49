import Mathlib.Order.Nat
import DocQuery.Pattern.Search

/-!
What patterns match, said of their trees, and that the programs made from the trees match the same. A
program is laid step by step behind the steps it leads to, and what it matches depends on no other steps.
-/

namespace DocQuery.Pattern

def charBefore (text : Array Char) (place : Nat) : Option Char :=
  if place = 0 then none else text[place - 1]?

/-- So many steps of a relation one after the other. -/
def Times (r : Nat → Nat → Prop) : Nat → Nat → Nat → Prop
  | 0, i, j => i = j
  | count + 1, i, k => ∃ j, r i j ∧ Times r count j k

/-- The places of a text between which a node matches. A repetition whose upper bound is below the lower
one is passed as often as the lower one says. -/
def Node.Matches (text : Array Char) : Node → Nat → Nat → Prop
  | .empty, i, j => i = j
  | .set s, i, j => text[i]?.any (Text.RangeTable.contains s.toArray) = true ∧ i + 1 = j
  | .look l, i, j => l.holds (charBefore text i) text[i]? = true ∧ i = j
  | .seq a b, i, k => ∃ j, a.Matches text i j ∧ b.Matches text j k
  | .either a b, i, j => a.Matches text i j ∨ b.Matches text i j
  | .repeat node least most _, i, j =>
    ∃ count, least ≤ count ∧ (∀ m ∈ most, count ≤ max least m) ∧ Times (node.Matches text) count i j
  | .capture _ node, i, j => node.Matches text i j

/-- So many steps and so many more are as many steps as both. -/
theorem times_add {r : Nat → Nat → Prop} {a b i k : Nat} :
    Times r (a + b) i k ↔ ∃ j, Times r a i j ∧ Times r b j k := by
  induction a generalizing i with
  | zero => simp [Times]
  | succ a ih =>
      rw [Nat.succ_add]
      constructor
      · rintro ⟨j, hStep, hRest⟩
        obtain ⟨m, hFirst, hSecond⟩ := ih.mp hRest
        exact ⟨m, ⟨j, hStep, hFirst⟩, hSecond⟩
      · rintro ⟨m, ⟨j, hStep, hFirst⟩, hSecond⟩
        exact ⟨j, hStep, ih.mpr ⟨m, hFirst, hSecond⟩⟩

/-- What is true before a relation and kept by it is true after so many steps. -/
theorem Times.preserves {r : Nat → Nat → Prop} {P : Nat → Prop} (hStep : ∀ i j, r i j → P i → P j)
    {count i j : Nat} (h : Times r count i j) (hStart : P i) : P j := by
  induction count generalizing i with
  | zero => exact h ▸ hStart
  | succ count ih =>
      obtain ⟨m, hFirst, hRest⟩ := h
      exact ih hRest (hStep i m hFirst hStart)

/-- A match goes on within the text. -/
theorem Node.Matches.le_size {text : Array Char} {node : Node} {i j : Nat} (h : node.Matches text i j)
    (hStart : i ≤ text.size) : j ≤ text.size := by
  induction node generalizing i j with
  | empty => exact h ▸ hStart
  | set s =>
      obtain ⟨hChar, rfl⟩ := h
      obtain ⟨c, hSome, -⟩ := Option.any_eq_true _ _ |>.mp hChar
      obtain ⟨hLess, -⟩ := Array.getElem?_eq_some_iff.mp hSome
      exact hLess
  | look l => exact h.2 ▸ hStart
  | seq a b ihA ihB =>
      obtain ⟨m, hFirst, hSecond⟩ := h
      exact ihB hSecond (ihA hFirst hStart)
  | either a b ihA ihB => exact h.elim (ihA · hStart) (ihB · hStart)
  | «repeat» node least most greedy ih =>
      obtain ⟨count, -, -, hTimes⟩ := h
      exact hTimes.preserves (fun _ _ hStep hLe => ih hStep hLe) hStart
  | capture index node ih => exact ih h hStart

namespace Program

/-- A move from a step at a place of a text to another one. -/
inductive Move (p : Program) (text : Array Char) (s i : Nat) : Nat → Nat → Prop where
  | set {table : Text.RangeTable} {next : Nat} (hStep : p[s]? = some (.set table next))
      (hChar : text[i]?.any table.contains = true) : Move p text s i next (i + 1)
  | look {l : Look} {next : Nat} (hStep : p[s]? = some (.look l next))
      (hHolds : l.holds (charBefore text i) text[i]? = true) : Move p text s i next i
  | first {first second : Nat} (hStep : p[s]? = some (.split first second)) : Move p text s i first i
  | second {first second : Nat} (hStep : p[s]? = some (.split first second)) : Move p text s i second i
  | save {slot next : Nat} (hStep : p[s]? = some (.save slot next)) : Move p text s i next i

/-- So many moves lead from a step at a place to the end of the program. -/
def Finishes (p : Program) (text : Array Char) : Nat → Nat → Nat → Prop
  | 0, s, _ => p[s]? = some .done
  | count + 1, s, i => ∃ s' i', p.Move text s i s' i' ∧ p.Finishes text count s' i'

variable {p p' q : Program} {text : Array Char} {r r' : Nat → Nat → Prop} {entry next : Nat}

/-- A part of a program leads from its entry to a next step between the places that a relation says. The
moves that are left behind the part are no more than those from its entry. -/
structure Passage (q : Program) (text : Array Char) (r : Nat → Nat → Prop) (entry next : Nat) : Prop where
  sound {count i : Nat} (h : q.Finishes text count entry i) :
    ∃ j left, left ≤ count ∧ r i j ∧ q.Finishes text left next j
  complete {count i j : Nat} (hMatch : r i j) (h : q.Finishes text count next j) :
    ∃ more, q.Finishes text more entry i

namespace Passage

theorem congr (h : Passage q text r entry next) (hSame : ∀ i j, r i j ↔ r' i j) :
    Passage q text r' entry next where
  sound hFinishes := by
    obtain ⟨j, left, hLe, hMatch, hLeft⟩ := h.sound hFinishes
    exact ⟨j, left, hLe, (hSame _ _).mp hMatch, hLeft⟩
  complete hMatch := h.complete ((hSame _ _).mpr hMatch)

theorem refl (q : Program) (text : Array Char) (next : Nat) : Passage q text Eq next next where
  sound hFinishes := ⟨_, _, le_rfl, rfl, hFinishes⟩
  complete hMatch hFinishes := ⟨_, hMatch ▸ hFinishes⟩

/-- What leads from one place to another leads on to a third one. -/
theorem trans {middle : Nat} (h : Passage q text r entry middle) (h' : Passage q text r' middle next) :
    Passage q text (fun i k => ∃ j, r i j ∧ r' j k) entry next where
  sound hFinishes := by
    obtain ⟨j, left, hLe, hMatch, hLeft⟩ := h.sound hFinishes
    obtain ⟨k, left', hLe', hMatch', hLeft'⟩ := h'.sound hLeft
    exact ⟨k, left', hLe'.trans hLe, ⟨j, hMatch, hMatch'⟩, hLeft'⟩
  complete hMatch hFinishes := by
    obtain ⟨j, hFirst, hSecond⟩ := hMatch
    obtain ⟨count, hMiddle⟩ := h'.complete hSecond hFinishes
    exact h.complete hFirst hMiddle

/-- A step that is not the last one leads on as its moves do. -/
theorem single (hStep : q[entry]? ≠ some .done)
    (hMoves : ∀ i s j, q.Move text entry i s j ↔ s = next ∧ r i j) : Passage q text r entry next where
  sound {count i} hFinishes := by
    cases count with
    | zero => exact absurd hFinishes hStep
    | succ count =>
        obtain ⟨s, j, hMove, hRest⟩ := hFinishes
        obtain ⟨rfl, hMatch⟩ := (hMoves i s j).mp hMove
        exact ⟨j, count, Nat.le_succ count, hMatch, hRest⟩
  complete {count i j} hMatch hFinishes := ⟨count + 1, next, j, (hMoves i next j).mpr ⟨rfl, hMatch⟩, hFinishes⟩

end Passage

/-- From a split the search moves to either step, at the same place. -/
theorem move_split_iff {first second i s j : Nat} (hStep : q[entry]? = some (.split first second)) :
    q.Move text entry i s j ↔ (s = first ∨ s = second) ∧ i = j := by
  constructor
  · intro hMove
    cases hMove with
    | first hStep' => cases hStep.symm.trans hStep'; exact ⟨.inl rfl, rfl⟩
    | second hStep' => cases hStep.symm.trans hStep'; exact ⟨.inr rfl, rfl⟩
    | set hStep' => cases hStep.symm.trans hStep'
    | look hStep' => cases hStep.symm.trans hStep'
    | save hStep' => cases hStep.symm.trans hStep'
  · rintro ⟨rfl | rfl, rfl⟩
    · exact .first hStep
    · exact .second hStep

/-- From a set it moves behind one character of the set. -/
theorem move_set_iff {table : Text.RangeTable} {i s j : Nat} (hStep : q[entry]? = some (.set table next)) :
    q.Move text entry i s j ↔ s = next ∧ text[i]?.any table.contains = true ∧ i + 1 = j := by
  constructor
  · intro hMove
    cases hMove with
    | set hStep' hChar => cases hStep.symm.trans hStep'; exact ⟨rfl, hChar, rfl⟩
    | look hStep' => cases hStep.symm.trans hStep'
    | first hStep' => cases hStep.symm.trans hStep'
    | second hStep' => cases hStep.symm.trans hStep'
    | save hStep' => cases hStep.symm.trans hStep'
  · rintro ⟨rfl, hChar, rfl⟩
    exact .set hStep hChar

/-- From a condition it moves on where the condition holds. -/
theorem move_look_iff {l : Look} {i s j : Nat} (hStep : q[entry]? = some (.look l next)) :
    q.Move text entry i s j ↔ s = next ∧ l.holds (charBefore text i) text[i]? = true ∧ i = j := by
  constructor
  · intro hMove
    cases hMove with
    | look hStep' hHolds => cases hStep.symm.trans hStep'; exact ⟨rfl, hHolds, rfl⟩
    | set hStep' => cases hStep.symm.trans hStep'
    | first hStep' => cases hStep.symm.trans hStep'
    | second hStep' => cases hStep.symm.trans hStep'
    | save hStep' => cases hStep.symm.trans hStep'
  · rintro ⟨rfl, hHolds, rfl⟩
    exact .look hStep hHolds

/-- From a save it moves on at the same place. -/
theorem move_save_iff {slot i s j : Nat} (hStep : q[entry]? = some (.save slot next)) :
    q.Move text entry i s j ↔ s = next ∧ i = j := by
  constructor
  · intro hMove
    cases hMove with
    | save hStep' => cases hStep.symm.trans hStep'; exact ⟨rfl, rfl⟩
    | set hStep' => cases hStep.symm.trans hStep'
    | look hStep' => cases hStep.symm.trans hStep'
    | first hStep' => cases hStep.symm.trans hStep'
    | second hStep' => cases hStep.symm.trans hStep'
  · rintro ⟨rfl, rfl⟩
    exact .save hStep

/-- A step that leads to two others has finished when one of them has. -/
theorem finishes_split_iff {first second count i : Nat} (hStep : q[entry]? = some (.split first second)) :
    q.Finishes text (count + 1) entry i ↔ q.Finishes text count first i ∨ q.Finishes text count second i := by
  constructor
  · rintro ⟨s, j, hMove, hRest⟩
    obtain ⟨rfl | rfl, rfl⟩ := (move_split_iff hStep).mp hMove
    · exact .inl hRest
    · exact .inr hRest
  · rintro (hFirst | hSecond)
    · exact ⟨first, i, .first hStep, hFirst⟩
    · exact ⟨second, i, .second hStep, hSecond⟩

/-- A choice is a split whose order does not matter for whether it finishes. -/
theorem finishes_choice_iff {greedy : Bool} {body after count i : Nat}
    (hStep : q[entry]? = some (choice greedy body after)) :
    q.Finishes text (count + 1) entry i ↔ q.Finishes text count body i ∨ q.Finishes text count after i := by
  cases greedy with
  | true => exact finishes_split_iff hStep
  | false => exact (finishes_split_iff hStep).trans or_comm

theorem choice_ne_done (greedy : Bool) (body after : Nat) : choice greedy body after ≠ .done := by
  cases greedy <;> exact nofun

/-- A choice between two ways to the same step. -/
theorem Passage.choice {greedy : Bool} {body after : Nat} (hStep : q[entry]? = some (choice greedy body after))
    (hBody : Passage q text r body next) (hAfter : Passage q text r' after next) :
    Passage q text (fun i j => r i j ∨ r' i j) entry next where
  sound {count i} hFinishes := by
    cases count with
    | zero =>
        cases choice_ne_done greedy body after (Option.some.inj (hStep.symm.trans hFinishes))
    | succ count =>
        rcases (finishes_choice_iff hStep).mp hFinishes with hFirst | hSecond
        · obtain ⟨j, left, hLe, hMatch, hLeft⟩ := hBody.sound hFirst
          exact ⟨j, left, Nat.le_succ_of_le hLe, .inl hMatch, hLeft⟩
        · obtain ⟨j, left, hLe, hMatch, hLeft⟩ := hAfter.sound hSecond
          exact ⟨j, left, Nat.le_succ_of_le hLe, .inr hMatch, hLeft⟩
  complete hMatch hFinishes := by
    rcases hMatch with hMatch | hMatch
    · obtain ⟨more, hMore⟩ := hBody.complete hMatch hFinishes
      exact ⟨more + 1, (finishes_choice_iff hStep).mpr (.inl hMore)⟩
    · obtain ⟨more, hMore⟩ := hAfter.complete hMatch hFinishes
      exact ⟨more + 1, (finishes_choice_iff hStep).mpr (.inr hMore)⟩

/-- A loop: the body leads to a choice between the body and what follows. -/
theorem Passage.loop {greedy : Bool} {body again : Nat}
    (hStep : q[again]? = some (Program.choice greedy body next))
    (hBody : Passage q text r body again) :
    Passage q text (fun i j => ∃ count, Times r count i j) again next where
  sound {count i} hFinishes := by
    induction count using Nat.strongRecOn generalizing i with
    | ind count ih =>
        cases count with
        | zero => cases choice_ne_done greedy body next (Option.some.inj (hStep.symm.trans hFinishes))
        | succ count =>
            rcases (finishes_choice_iff hStep).mp hFinishes with hAgain | hLeave
            · obtain ⟨m, left, hLe, hMatch, hLeft⟩ := hBody.sound hAgain
              obtain ⟨j, last, hLast, ⟨times, hTimes⟩, hEnd⟩ := ih left (Nat.lt_succ_of_le hLe) hLeft
              exact ⟨j, last, (hLast.trans hLe).trans (Nat.le_succ count), ⟨times + 1, m, hMatch, hTimes⟩, hEnd⟩
            · exact ⟨i, count, Nat.le_succ count, ⟨0, rfl⟩, hLeave⟩
  complete {count i j} hMatch hFinishes := by
    obtain ⟨times, hTimes⟩ := hMatch
    induction times generalizing i with
    | zero =>
        obtain rfl : i = j := hTimes
        exact ⟨count + 1, (finishes_choice_iff hStep).mpr (.inr hFinishes)⟩
    | succ times ih =>
        obtain ⟨m, hFirst, hRest⟩ := hTimes
        obtain ⟨more, hMore⟩ := ih hRest
        obtain ⟨all, hAll⟩ := hBody.complete hFirst hMore
        exact ⟨all + 1, (finishes_choice_iff hStep).mpr (.inl hAll)⟩

/-! ### Laying steps -/

/-- A program goes on another one, whose steps it keeps. -/
structure GoesOn (p p' : Program) : Prop where
  size_le : p.size ≤ p'.size
  kept {s : Nat} (h : s < p.size) : p'[s]? = p[s]?

/-- A program has the steps of another one from a number on. -/
def Covers (q p : Program) (start : Nat) : Prop := ∀ s, start ≤ s → s < p.size → q[s]? = p[s]?

/-- The steps from one program to a longer one lead from an entry to a next step as a relation says,
whatever other steps there will be. -/
structure Laid (text : Array Char) (r : Nat → Nat → Prop) (entry next : Nat) (p p' : Program) : Prop where
  goesOn : GoesOn p p'
  passage {q : Program} (h : q.Covers p' p.size) : Passage q text r entry next

theorem GoesOn.refl (p : Program) : GoesOn p p := ⟨le_rfl, fun _ => rfl⟩

theorem GoesOn.trans {p'' : Program} (h : GoesOn p p') (h' : GoesOn p' p'') : GoesOn p p'' :=
  ⟨h.size_le.trans h'.size_le, fun hLess => (h'.kept (hLess.trans_le h.size_le)).trans (h.kept hLess)⟩

theorem goesOn_push (p : Program) (step : Step) : GoesOn p (p.push step) :=
  ⟨by simp, fun hLess => Array.getElem?_push_lt hLess |>.trans (Array.getElem?_eq_getElem hLess).symm⟩

theorem getElem?_push_size (p : Program) (step : Step) : (p.push step)[p.size]? = some step := by simp

namespace Laid

theorem congr (h : Laid text r entry next p p') (hSame : ∀ i j, r i j ↔ r' i j) :
    Laid text r' entry next p p' := ⟨h.goesOn, fun hCovers => (h.passage hCovers).congr hSame⟩

theorem refl (text : Array Char) (next : Nat) (p : Program) : Laid text Eq next next p p :=
  ⟨.refl p, fun _ => .refl _ text next⟩

/-- More steps behind do not matter. -/
theorem before {p'' : Program} (h : Laid text r entry next p p') (hOn : GoesOn p' p'') :
    Laid text r entry next p p'' where
  goesOn := h.goesOn.trans hOn
  passage hCovers := h.passage fun s hStart hLess =>
    (hCovers s hStart (hLess.trans_le hOn.size_le)).trans (hOn.kept hLess)

/-- More steps in front do not matter. -/
theorem behind {p'' : Program} (hOn : GoesOn p p') (h : Laid text r entry next p' p'') :
    Laid text r entry next p p'' where
  goesOn := hOn.trans h.goesOn
  passage hCovers := h.passage fun s hStart => hCovers s (hOn.size_le.trans hStart)

theorem trans {middle : Nat} (h : Laid text r entry middle p p') (h' : Laid text r' middle next p p') :
    Laid text (fun i k => ∃ j, r i j ∧ r' j k) entry next p p' :=
  ⟨h.goesOn, fun hCovers => (h.passage hCovers).trans (h'.passage hCovers)⟩

/-- A choice that is added between two ways to the same step. -/
theorem choice (greedy : Bool) {body after : Nat} (hBody : Laid text r body next p p')
    (hAfter : Laid text r' after next p p') :
    Laid text (fun i j => r i j ∨ r' i j) p'.size next p (p'.push (Program.choice greedy body after)) where
  goesOn := hBody.goesOn.trans (goesOn_push p' _)
  passage hCovers :=
    have hStep := (hCovers p'.size hBody.goesOn.size_le (by simp)).trans (getElem?_push_size p' _)
    .choice hStep ((hBody.before (goesOn_push p' _)).passage hCovers)
      ((hAfter.before (goesOn_push p' _)).passage hCovers)

/-- A step that is added and has one kind of moves. -/
theorem push {step : Step} (hDone : step ≠ .done)
    (hMoves : ∀ (q : Program) (s : Nat), q[s]? = some step →
      ∀ i s' j, q.Move text s i s' j ↔ s' = next ∧ r i j) :
    Laid text r p.size next p (p.push step) where
  goesOn := goesOn_push p step
  passage {q} hCovers := by
    have hStep := (hCovers p.size (Nat.le_refl _) (by simp)).trans (getElem?_push_size p step)
    exact .single (fun hEnd => hDone (Option.some.inj (hStep.symm.trans hEnd))) (hMoves q p.size hStep)

end Laid

section Combinations

variable {place : Nat → Program → Nat × Program}
  (hPlace : ∀ next p, Laid text r (place next p).1 next p (place next p).2)

include hPlace

/-- Copies of a part match what the part matches so many times over. -/
theorem addCopies_laid (count next : Nat) (p : Program) :
    Laid text (Times r count) (addCopies place count next p).1 next p (addCopies place count next p).2 := by
  induction count with
  | zero => exact .refl text next p
  | succ count ih =>
      have hFirst := hPlace (addCopies place count next p).1 (addCopies place count next p).2
      exact (hFirst.behind ih.goesOn).trans (ih.before hFirst.goesOn)

/-- Optional copies match what the part matches as often as that, or less often. -/
theorem addOptions_laid (greedy : Bool) (count next : Nat) (p : Program) :
    Laid text (fun i j => ∃ times ≤ count, Times r times i j) (addOptions place greedy count next p).1 next p
      (addOptions place greedy count next p).2 := by
  induction count with
  | zero =>
      refine (Laid.refl text next p).congr fun i j => ?_
      simp [Times]
  | succ count ih =>
      have hFirst := hPlace (addOptions place greedy count next p).1 (addOptions place greedy count next p).2
      have hBody := (hFirst.behind ih.goesOn).trans (ih.before hFirst.goesOn)
      have hAfter := Laid.refl text next p |>.before (ih.goesOn.trans hFirst.goesOn)
      refine (hBody.choice greedy hAfter).congr fun i j => ⟨?_, ?_⟩
      · rintro (⟨m, hStep, times, hLe, hTimes⟩ | rfl)
        · exact ⟨times + 1, Nat.succ_le_succ hLe, m, hStep, hTimes⟩
        · exact ⟨0, Nat.zero_le _, rfl⟩
      · rintro ⟨times, hLe, hTimes⟩
        cases times with
        | zero => exact .inr hTimes
        | succ times =>
            obtain ⟨m, hStep, hTimes⟩ := hTimes
            exact .inl ⟨m, hStep, times, Nat.le_of_succ_le_succ hLe, hTimes⟩

/-- A loop is entered at its body, which is then passed at least once, or at the step behind it. The step
behind it is placed first and filled in when the body is known. -/
theorem addLoop_laid (greedy : Bool) (next : Nat) (p : Program) :
    Laid text (fun i j => ∃ count, Times r (count + 1) i j) (addLoop place greedy next p).1 next p
        (addLoop place greedy next p).2.2 ∧
      Laid text (fun i j => ∃ count, Times r count i j) (addLoop place greedy next p).2.1 next p
        (addLoop place greedy next p).2.2 := by
  have hBody := hPlace p.size (p.push .done)
  let body := (place p.size (p.push .done)).1
  let laid := (place p.size (p.push .done)).2
  have hSize : p.size < laid.size := by
    have hLe := hBody.goesOn.size_le
    rw [Array.size_push] at hLe
    exact hLe
  have hKept {s : Nat} (hNot : s ≠ p.size) :
      (laid.setIfInBounds p.size (choice greedy body next))[s]? = laid[s]? :=
    Array.getElem?_setIfInBounds_ne hNot.symm
  have hOn : GoesOn p (laid.setIfInBounds p.size (choice greedy body next)) := by
    refine ⟨by simpa using hSize.le, fun {s} hLess => (hKept hLess.ne).trans ?_⟩
    exact ((goesOn_push p .done).trans hBody.goesOn).kept hLess
  have hLoop {q : Program} (hCovers : q.Covers (laid.setIfInBounds p.size (choice greedy body next)) p.size) :
      Passage q text r body p.size ∧ Passage q text (fun i j => ∃ count, Times r count i j) p.size next := by
    have hStep : q[p.size]? = some (choice greedy body next) := by
      rw [hCovers p.size (Nat.le_refl _) (by simpa using hSize)]
      simp [hSize]
    have hPart : Passage q text r body p.size := by
      refine hBody.passage fun s hStart hLess => ?_
      rw [Array.size_push] at hStart
      rw [hCovers s (Nat.le_of_succ_le hStart) (by simpa using hLess), hKept (Nat.ne_of_gt hStart)]
    exact ⟨hPart, .loop hStep hPart⟩
  refine ⟨⟨hOn, fun hCovers => ?_⟩, ⟨hOn, fun hCovers => (hLoop hCovers).2⟩⟩
  refine ((hLoop hCovers).1.trans (hLoop hCovers).2).congr fun i j => ?_
  exact ⟨fun ⟨m, hStep, count, hTimes⟩ => ⟨count, m, hStep, hTimes⟩,
    fun ⟨count, m, hStep, hTimes⟩ => ⟨m, hStep, count, hTimes⟩⟩

end Combinations

/-- The steps of a node match what the node does. -/
theorem addNode_laid (text : Array Char) (node : Node) (next : Nat) (p : Program) :
    Laid text (node.Matches text) (addNode node next p).1 next p (addNode node next p).2 := by
  induction node generalizing next p with
  | empty => exact .refl text next p
  | set s => exact .push nofun fun q entry hStep i s' j => move_set_iff hStep
  | look l => exact .push nofun fun q entry hStep i s' j => move_look_iff hStep
  | seq a b ihA ihB =>
      have hSecond := ihB next p
      have hFirst := ihA (addNode b next p).1 (addNode b next p).2
      exact (hFirst.behind hSecond.goesOn).trans (hSecond.before hFirst.goesOn)
  | either a b ihA ihB =>
      have hSecond := ihB next p
      have hFirst := ihA next (addNode b next p).2
      exact (hFirst.behind hSecond.goesOn).choice true (hSecond.before hFirst.goesOn)
  | «repeat» node least most greedy ih =>
      cases most with
      | some most =>
          have hOptions := addOptions_laid ih greedy (most - least) next p
          have hCopies := addCopies_laid ih least (addOptions (addNode node) greedy (most - least) next p).1
            (addOptions (addNode node) greedy (most - least) next p).2
          refine ((hCopies.behind hOptions.goesOn).trans (hOptions.before hCopies.goesOn)).congr fun i j => ?_
          constructor
          · rintro ⟨m, hFirst, times, hLe, hTimes⟩
            refine ⟨least + times, Nat.le_add_right _ _, ?_, times_add.mpr ⟨m, hFirst, hTimes⟩⟩
            rintro _ ⟨⟩
            omega
          · rintro ⟨count, hLeast, hMost, hTimes⟩
            obtain ⟨times, rfl⟩ := Nat.exists_eq_add_of_le hLeast
            obtain ⟨m, hFirst, hRest⟩ := times_add.mp hTimes
            have hLe := hMost most rfl
            exact ⟨m, hFirst, times, by omega, hRest⟩
      | none =>
          obtain ⟨hBody, hAgain⟩ := addLoop_laid ih greedy next p
          cases least with
          | zero =>
              rw [addNode]
              dsimp only
              split
              · have hNext := (Laid.refl text next p).before hBody.goesOn
                refine (hBody.choice greedy hNext).congr fun i j => ⟨?_, ?_⟩
                · rintro (⟨count, hTimes⟩ | rfl)
                  · exact ⟨count + 1, Nat.zero_le _, nofun, hTimes⟩
                  · exact ⟨0, Nat.zero_le _, nofun, rfl⟩
                · rintro ⟨count, -, -, hTimes⟩
                  cases count with
                  | zero => exact .inr hTimes
                  | succ count => exact .inl ⟨count, hTimes⟩
              · refine hAgain.congr fun i j =>
                  ⟨fun ⟨count, hTimes⟩ => ⟨count, Nat.zero_le _, nofun, hTimes⟩, ?_⟩
                rintro ⟨count, -, -, hTimes⟩
                exact ⟨count, hTimes⟩
          | succ least =>
              have hCopies := addCopies_laid ih least (addLoop (addNode node) greedy next p).1
                (addLoop (addNode node) greedy next p).2.2
              refine ((hCopies.behind hBody.goesOn).trans (hBody.before hCopies.goesOn)).congr fun i j => ?_
              constructor
              · rintro ⟨m, hFirst, count, hTimes⟩
                exact ⟨least + (count + 1), by omega, nofun, times_add.mpr ⟨m, hFirst, hTimes⟩⟩
              · rintro ⟨count, hLeast, -, hTimes⟩
                obtain ⟨more, rfl⟩ := Nat.exists_eq_add_of_le hLeast
                rw [Nat.succ_add_eq_add_succ, times_add] at hTimes
                obtain ⟨m, hFirst, hRest⟩ := hTimes
                exact ⟨m, hFirst, more, hRest⟩
  | capture index node ih =>
      have hSave {slot next : Nat} {p : Program} : Laid text Eq p.size next p (p.push (.save slot next)) :=
        .push nofun fun q entry hStep i s' j => move_save_iff hStep
      have hEnd : Laid text Eq p.size next p (p.push (.save (2 * index + 1) next)) := hSave
      have hInner := ih p.size (p.push (.save (2 * index + 1) next))
      have hInside := (hInner.behind hEnd.goesOn).trans (hEnd.before hInner.goesOn)
      have hStart := @hSave (2 * index) (addNode node p.size (p.push (.save (2 * index + 1) next))).1
        (addNode node p.size (p.push (.save (2 * index + 1) next))).2
      refine ((hStart.behind hInside.goesOn).trans (hInside.before hStart.goesOn)).congr fun i j => ?_
      exact ⟨fun ⟨_, hFirst, _, hMatch, hLast⟩ => hFirst ▸ hLast ▸ hMatch,
        fun hMatch => ⟨i, rfl, j, hMatch, rfl⟩⟩

end Program

end DocQuery.Pattern
