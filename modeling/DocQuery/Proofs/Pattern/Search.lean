import DocQuery.Proofs.Pattern.Language
import DocQuery.Proofs.Pattern.Program

/-!
Searches find what patterns match. No point is tried twice: what was tried and would finish has a thread
waiting that finishes in fewer moves, so that nothing that was tried finishes once no thread is left. Every
point that is tried takes up one thread and leaves two at most, which bounds the fuel.
-/

namespace DocQuery.Pattern

open Program

variable {p : Program} {text : Array Char} {tried : Array Bool}

/-- No move leaves the text. -/
theorem Program.Move.le_size {s i s' j : Nat} (h : p.Move text s i s' j) (hStart : i ≤ text.size) :
    j ≤ text.size := by
  cases h with
  | set _ hChar =>
      obtain ⟨c, hSome, -⟩ := (Option.any_eq_true _ _).mp hChar
      exact (Array.getElem?_eq_some_iff.mp hSome).1
  | look => exact hStart
  | first => exact hStart
  | second => exact hStart
  | save => exact hStart

/-- The point of a thread finishes in so many moves. -/
def Thread.Finishes (p : Program) (text : Array Char) (count : Nat) (t : Thread) : Prop :=
  p.Finishes text count t.step t.place

/-- A condition lets a thread go on at the same place or ends it. -/
theorem Thread.advance_look {t : Thread} {l : Look} {next : Nat} (hStep : p[t.step]? = some (.look l next)) :
    t.advance p text = if l.holds (charBefore text t.place) text[t.place]? = true
      then .threads [⟨next, t.place, t.saved⟩] else .threads [] := by
  rw [advance, hStep]
  rfl

/-- A thread that has found something is at the end of the program. -/
theorem Thread.finishes_of_found {t : Thread} {saved : Saved} {place : Nat}
    (h : t.advance p text = .found saved place) : t.Finishes p text 0 := by
  cases hStep : p[t.step]? with
  | none =>
      rw [advance, hStep] at h
      cases h
  | some step =>
      cases step with
      | done => exact hStep
      | look l next =>
          rw [advance_look hStep] at h
          split at h <;> cases h
      | set table next =>
          rw [advance, hStep] at h
          dsimp only at h
          split at h <;> cases h
      | split first second =>
          rw [advance, hStep] at h
          cases h
      | save slot next =>
          rw [advance, hStep] at h
          cases h

/-- What a thread goes on to is what its point moves to. -/
theorem Thread.moves_of_threads {t : Thread} {next : List Thread} (h : t.advance p text = .threads next) :
    p[t.step]? ≠ some .done ∧ next.length ≤ 2 ∧
      ∀ s j, p.Move text t.step t.place s j ↔ ∃ t' ∈ next, t'.step = s ∧ t'.place = j := by
  cases hStep : p[t.step]? with
  | none =>
      rw [advance, hStep] at h
      cases h
      refine ⟨nofun, Nat.zero_le _, fun s j => iff_of_false (fun hMove => ?_) (by simp)⟩
      cases hMove <;> simp_all
  | some step =>
      cases step with
      | done =>
          rw [advance, hStep] at h
          cases h
      | set table next =>
          rw [advance, hStep] at h
          simp only [move_set_iff hStep]
          dsimp only at h
          split at h
          · next hChar =>
              cases h
              simp [hChar, eq_comm]
          · next hChar =>
              cases h
              simp [hChar]
      | look l next =>
          rw [advance_look hStep] at h
          simp only [move_look_iff hStep]
          split at h
          · next hHolds =>
              cases h
              simp [hHolds, eq_comm]
          · next hHolds =>
              cases h
              simp [hHolds]
      | split first second =>
          rw [advance, hStep] at h
          cases h
          simp only [move_split_iff hStep]
          refine ⟨nofun, Nat.le_refl _, fun s j => ?_⟩
          simp only [List.mem_cons, List.not_mem_nil, or_false, exists_eq_or_imp, exists_eq_left]
          rw [or_and_right, @eq_comm _ s first, @eq_comm _ s second]
      | save slot next =>
          rw [advance, hStep] at h
          cases h
          simp only [move_save_iff hStep]
          simp [eq_comm]

/-- A thread that goes on finishes when one of those it goes on to does. -/
theorem Thread.finishes_iff {t : Thread} {next : List Thread} (h : t.advance p text = .threads next)
    {count : Nat} :
    t.Finishes p text count ↔ ∃ less, count = less + 1 ∧ ∃ t' ∈ next, t'.Finishes p text less := by
  obtain ⟨hDone, -, hMoves⟩ := moves_of_threads h
  cases count with
  | zero => exact iff_of_false hDone (by simp)
  | succ count =>
      constructor
      · rintro ⟨s, j, hMove, hRest⟩
        obtain ⟨t', hMem, rfl, rfl⟩ := (hMoves s j).mp hMove
        exact ⟨count, rfl, t', hMem, hRest⟩
      · rintro ⟨_, hEq, t', hMem, hRest⟩
        cases hEq
        exact ⟨t'.step, t'.place, (hMoves _ _).mpr ⟨t', hMem, rfl, rfl⟩, hRest⟩

def pointOf (text : Array Char) (s i : Nat) : Nat := s * (text.size + 1) + i

/-- A point was tried, or lies outside of the program. -/
def IsTried (text : Array Char) (tried : Array Bool) (s i : Nat) : Prop :=
  tried.getD (pointOf text s i) true = true

/-- Points of different steps or places have different numbers. -/
theorem pointOf_inj {s i s' i' : Nat} (hPlace : i ≤ text.size) (hPlace' : i' ≤ text.size)
    (h : pointOf text s i = pointOf text s' i') : s = s' ∧ i = i' := by
  have hStep (s : Nat) {i : Nat} (hLe : i ≤ text.size) : pointOf text s i / (text.size + 1) = s := by
    rw [pointOf, Nat.add_comm, Nat.add_mul_div_right _ _ (Nat.succ_pos _),
      Nat.div_eq_of_lt (Nat.lt_succ_of_le hLe), Nat.zero_add]
  have hSame : s = s' := by rw [← hStep s hPlace, h, hStep s' hPlace']
  subst hSame
  exact ⟨rfl, Nat.add_left_cancel h⟩

structure Searching (p : Program) (text : Array Char) (tried : Array Bool) (threads : List Thread) : Prop where
  size : tried.size = p.size * (text.size + 1)
  within : ∀ t ∈ threads, t.place ≤ text.size
  waiting {s i count : Nat} (hPlace : i ≤ text.size) (hTried : IsTried text tried s i)
    (hFinishes : p.Finishes text count s i) : ∃ t ∈ threads, ∃ less < count, t.Finishes p text less

namespace Searching

variable {t : Thread} {rest next : List Thread}

/-- A thread at a point that was tried may be left out. -/
theorem skip (h : Searching p text tried (t :: rest)) (hTried : IsTried text tried t.step t.place) :
    Searching p text tried rest where
  size := h.size
  within := (List.forall_mem_cons.mp h.within).2
  waiting {s i count} hPlace hTried' hFinishes := by
    induction count using Nat.strongRecOn generalizing s i with
    | ind count ih =>
        obtain ⟨t', hMem, less, hLess, hLeft⟩ := h.waiting hPlace hTried' hFinishes
        rcases List.mem_cons.mp hMem with rfl | hMem
        · obtain ⟨t'', hMem, least, hLeast, hFirst⟩ :=
            ih less hLess (h.within _ List.mem_cons_self) hTried hLeft
          exact ⟨t'', hMem, least, hLeast.trans hLess, hFirst⟩
        · exact ⟨t', hMem, less, hLess, hLeft⟩

/-- A thread whose point is tried now is replaced by those it goes on to. -/
theorem mark (h : Searching p text tried (t :: rest)) (hAdvance : t.advance p text = .threads next) :
    Searching p text (tried.setIfInBounds (pointOf text t.step t.place) true) (next ++ rest) where
  size := by rw [Array.size_setIfInBounds, h.size]
  within := by
    refine List.forall_mem_append.mpr ⟨fun t' hMem => ?_, (List.forall_mem_cons.mp h.within).2⟩
    have hMove := ((Thread.moves_of_threads hAdvance).2.2 _ _).mpr ⟨t', hMem, rfl, rfl⟩
    exact hMove.le_size (h.within t List.mem_cons_self)
  waiting {s i count} hPlace hTried hFinishes := by
    have hNext {count : Nat} (hThread : t.Finishes p text count) :
        ∃ t' ∈ next ++ rest, ∃ less < count, t'.Finishes p text less := by
      obtain ⟨less, rfl, t', hMem, hLeft⟩ := (Thread.finishes_iff hAdvance).mp hThread
      exact ⟨t', List.mem_append_left _ hMem, less, Nat.lt_succ_self less, hLeft⟩
    by_cases hSame : pointOf text t.step t.place = pointOf text s i
    · obtain ⟨rfl, rfl⟩ := pointOf_inj (h.within t List.mem_cons_self) hPlace hSame
      exact hNext hFinishes
    · rw [IsTried, Array.getD_eq_getD_getElem?, Array.getElem?_setIfInBounds_ne hSame,
        ← Array.getD_eq_getD_getElem?] at hTried
      obtain ⟨t', hMem, less, hLess, hLeft⟩ := h.waiting hPlace hTried hFinishes
      rcases List.mem_cons.mp hMem with rfl | hMem
      · obtain ⟨t'', hMem, least, hLeast, hFirst⟩ := hNext hLeft
        exact ⟨t'', hMem, least, hLeast.trans hLess, hFirst⟩
      · exact ⟨t', List.mem_append_right _ hMem, less, hLess, hLeft⟩

end Searching

/-- Every point that is tried now was counted among those that were not. -/
theorem count_mark {point : Nat} (h : tried.getD point true = false) :
    (tried.setIfInBounds point true).count false + 1 = tried.count false := by
  have hLess : point < tried.size := by
    by_contra hNot
    rw [Array.getD_eq_getD_getElem?, Array.getElem?_eq_none (Nat.le_of_not_lt hNot)] at h
    cases h
  have hValue : tried[point] = false := by
    rw [Array.getD_eq_getD_getElem?, Array.getElem?_eq_getElem hLess] at h
    exact h
  have hPos : 0 < tried.count false := Array.count_pos_iff.mpr (hValue ▸ Array.getElem_mem hLess)
  rw [Array.setIfInBounds, dif_pos hLess, Array.count_set hLess, hValue]
  simp only [BEq.rfl, if_true, beq_iff_eq, Bool.true_eq_false, if_false]
  omega

/-- A run with enough fuel finds an end when one of its threads has one; else nothing that was tried by
then has one. -/
theorem run_spec {fuel : Nat} {threads : List Thread} (h : Searching p text tried threads)
    (hFuel : threads.length + 2 * tried.count false ≤ fuel) :
    match run p text fuel tried threads with
    | (some _, _) => ∃ t ∈ threads, ∃ count, t.Finishes p text count
    | (none, tried') => Searching p text tried' [] ∧ ∀ t ∈ threads, ∀ count, ¬t.Finishes p text count := by
  induction fuel generalizing tried threads with
  | zero =>
      obtain rfl : threads = [] := List.eq_nil_of_length_eq_zero (by omega)
      exact ⟨h, nofun⟩
  | succ fuel ih =>
      cases threads with
      | nil => exact ⟨h, nofun⟩
      | cons t rest =>
          rw [run]
          dsimp only
          by_cases hTried : tried.getD (pointOf text t.step t.place) true = true
          · rw [pointOf] at hTried
            rw [if_pos hTried]
            have hSpec := ih (h.skip hTried) (by rw [List.length_cons] at hFuel; omega)
            split at hSpec
            · next hRun =>
                obtain ⟨t', hMem, hFinishes⟩ := hSpec
                exact ⟨t', List.mem_cons_of_mem t hMem, hFinishes⟩
            · next hRun =>
                refine ⟨hSpec.1, List.forall_mem_cons.mpr ⟨fun count hFinishes => ?_, hSpec.2⟩⟩
                obtain ⟨t', hMem, less, -, hLeft⟩ :=
                  (h.skip hTried).waiting (h.within t List.mem_cons_self) hTried hFinishes
                exact hSpec.2 t' hMem less hLeft
          · have hFree : tried.getD (pointOf text t.step t.place) true = false := Bool.eq_false_iff.mpr hTried
            rw [pointOf] at hTried
            rw [if_neg hTried]
            cases hAdvance : t.advance p text with
            | found saved place => exact ⟨t, List.mem_cons_self, 0, Thread.finishes_of_found hAdvance⟩
            | threads next =>
                have hCount := count_mark hFree
                have hNext := (Thread.moves_of_threads hAdvance).2.1
                have hSpec := ih (h.mark hAdvance) (by
                  rw [List.length_append]
                  rw [List.length_cons] at hFuel
                  omega)
                rw [pointOf] at hSpec
                dsimp only
                split at hSpec
                · next hRun =>
                    obtain ⟨t', hMem, count, hFinishes⟩ := hSpec
                    rcases List.mem_append.mp hMem with hMem | hMem
                    · exact ⟨t, List.mem_cons_self, count + 1,
                        (Thread.finishes_iff hAdvance).mpr ⟨count, rfl, t', hMem, hFinishes⟩⟩
                    · exact ⟨t', List.mem_cons_of_mem t hMem, count, hFinishes⟩
                · next hRun =>
                    refine ⟨hSpec.1, List.forall_mem_cons.mpr ⟨fun count hFinishes => ?_, fun t' hMem => ?_⟩⟩
                    · obtain ⟨less, -, t', hMem, hLeft⟩ := (Thread.finishes_iff hAdvance).mp hFinishes
                      exact hSpec.2 t' (List.mem_append_left _ hMem) less hLeft
                    · exact hSpec.2 t' (List.mem_append_right _ hMem)

/-- A search finds a match when the program finishes from one of the places it tries. -/
theorem searchFrom_isSome_iff {entry count start : Nat} (h : Searching p text tried [])
    (hPlaces : start + count ≤ text.size + 1) : (searchFrom p entry text count tried start).isSome = true ↔
      ∃ i, start ≤ i ∧ i < start + count ∧ ∃ moves, p.Finishes text moves entry i := by
  induction count generalizing tried start with
  | zero => exact iff_of_false nofun fun ⟨i, hStart, hLess, _⟩ => Nat.not_le_of_lt hLess hStart
  | succ count ih =>
      have hFirst : Searching p text tried [⟨entry, start, []⟩] := by
        refine ⟨h.size, List.forall_mem_singleton.mpr (by dsimp only; omega), fun hPlace hTried hFinishes => ?_⟩
        obtain ⟨t, hMem, -⟩ := h.waiting hPlace hTried hFinishes
        cases hMem
      have hFuel : [(⟨entry, start, []⟩ : Thread)].length + 2 * tried.count false ≤
          2 * p.size * (text.size + 1) + 1 := by
        have hCount : tried.count false ≤ tried.size := Array.count_le_size
        rw [h.size] at hCount
        rw [List.length_singleton, Nat.mul_assoc]
        omega
      have hSpec := run_spec hFirst hFuel
      rw [searchFrom]
      split at hSpec
      · next hRun =>
          obtain ⟨t, hMem, moves, hFinishes⟩ := hSpec
          obtain rfl := List.mem_singleton.mp hMem
          rw [hRun]
          exact iff_of_true rfl
            ⟨start, Nat.le_refl _, Nat.lt_add_of_pos_right (Nat.succ_pos _), moves, hFinishes⟩
      · next hRun =>
          have hNot := List.forall_mem_singleton.mp hSpec.2
          rw [hRun]
          dsimp only
          rw [ih hSpec.1 (by omega)]
          constructor
          · rintro ⟨i, hStart, hLess, hFinishes⟩
            exact ⟨i, by omega, by omega, hFinishes⟩
          · rintro ⟨i, hStart, hLess, moves, hFinishes⟩
            have hNe : i ≠ start := by
              rintro rfl
              exact hNot moves hFinishes
            exact ⟨i, by omega, by omega, moves, hFinishes⟩

/-- At first nothing was tried but what lies outside of the program, where nothing finishes. -/
theorem searching_replicate (p : Program) (text : Array Char) :
    Searching p text (Array.replicate (p.size * (text.size + 1)) false) [] where
  size := Array.size_replicate
  within := nofun
  waiting {s i count} hPlace hTried hFinishes := by
    exfalso
    have hOutside : p.size ≤ s := by
      by_contra hInside
      have hLess : pointOf text s i < p.size * (text.size + 1) := by
        calc pointOf text s i < s * (text.size + 1) + (text.size + 1) :=
              Nat.add_lt_add_left (Nat.lt_succ_of_le hPlace) _
          _ = (s + 1) * (text.size + 1) := (Nat.succ_mul s _).symm
          _ ≤ p.size * (text.size + 1) := Nat.mul_le_mul_right _ (Nat.lt_of_not_le hInside)
      rw [IsTried, Array.getD_eq_getD_getElem?, Array.getElem?_replicate, if_pos hLess] at hTried
      cases hTried
    have hNone : p[s]? = none := Array.getElem?_eq_none hOutside
    cases count with
    | zero => cases hNone.symm.trans hFinishes
    | succ count =>
        obtain ⟨s', j, hMove, -⟩ := hFinishes
        cases hMove <;> simp_all

/-- A node occurs in a text when it matches between two places of it. -/
theorem occursIn_ofNode_iff (node : Node) (names : List (String × Nat)) (text : String) :
    (ofNode node names).occursIn text = true ↔
      ∃ i j, i ≤ text.toList.length ∧ node.Matches text.toList.toArray i j := by
  let chars := text.toList.toArray
  have hLaid := addNode_laid chars node 0 #[.done]
  let entry := (addNode node 0 #[.done]).1
  let program := (addNode node 0 #[.done]).2
  have hPassage : Passage program chars (node.Matches chars) entry 0 := hLaid.passage fun _ _ _ => rfl
  have hEnd (j : Nat) : program.Finishes chars 0 0 j := hLaid.goesOn.kept (by simp)
  have hStart : Searching program chars (Array.replicate (program.size * (chars.size + 1)) false) [] :=
    searching_replicate program chars
  have hSearch : (ofNode node names).occursIn text = true ↔ _ :=
    @searchFrom_isSome_iff program chars _ entry (chars.size + 1) 0 hStart (by omega)
  have hSize : chars.size = text.toList.length := List.size_toArray
  rw [hSearch, hSize]
  constructor
  · rintro ⟨i, -, hLess, moves, hFinishes⟩
    obtain ⟨j, -, -, hMatch, -⟩ := hPassage.sound hFinishes
    exact ⟨i, j, by omega, hMatch⟩
  · rintro ⟨i, j, hLe, hMatch⟩
    obtain ⟨moves, hFinishes⟩ := hPassage.complete hMatch (hEnd j)
    exact ⟨i, Nat.zero_le _, by omega, moves, hFinishes⟩

/-! ### The engine to run with -/

/-- The language of the texts that have trees. -/
def language : PatternLanguage where
  IsPattern text := ∃ tree, Tree.ofText text = .ok tree
  IsTooLarge text := ∃ tree, Tree.ofText text = .ok tree ∧ patternSizeLimit < tree.node.steps * patternStepSize
  groupNames text := (Tree.ofText text).toOption.elim [] fun tree => tree.names.map Prod.fst
  Matches pattern text i j :=
    ∃ tree, Tree.ofText pattern = .ok tree ∧ tree.node.Matches text.toList.toArray i j

/-- The engine to run with takes the trees within its limits. -/
theorem compile_eq_ok_iff {text : String} {p : CompiledPattern} :
    PatternEngine.standard.compile text = .ok p ↔ ∃ tree, Tree.ofText text = .ok tree ∧
      tree.node.steps * patternStepSize ≤ patternSizeLimit ∧ p = (ofNode tree.node tree.names).compiled := by
  simp only [PatternEngine.standard, ofText]
  cases Tree.ofText text with
  | error fault => exact iff_of_false nofun fun ⟨_, hOk, _⟩ => nomatch hOk
  | ok tree =>
      by_cases hLarge : patternSizeLimit < tree.node.steps * patternStepSize
      · simp only [if_pos hLarge]
        refine iff_of_false nofun ?_
        rintro ⟨tree, hOk, hSmall, -⟩
        cases hOk
        exact absurd hLarge (Nat.not_lt_of_le hSmall)
      · simp only [if_neg hLarge]
        constructor
        · intro hOk
          cases hOk
          exact ⟨tree, rfl, Nat.le_of_not_lt hLarge, rfl⟩
        · rintro ⟨tree, hOk, -, rfl⟩
          cases hOk
          rfl

/-- The engine to run with takes the texts that have trees, within its limits, and finds what the trees match. -/
theorem standard_implements : PatternEngine.standard.Implements language where
  compile_iff text := by
    constructor
    · rintro ⟨p, hCompiled⟩
      obtain ⟨tree, hTree, hSmall, -⟩ := compile_eq_ok_iff.mp hCompiled
      refine ⟨⟨tree, hTree⟩, ?_⟩
      rintro ⟨tree, hOk, hLarge⟩
      cases hTree.symm.trans hOk
      exact absurd hLarge (Nat.not_lt_of_le hSmall)
    · rintro ⟨⟨tree, hTree⟩, hSmall⟩
      have hRoom := Nat.le_of_not_lt fun hLarge => hSmall ⟨tree, hTree, hLarge⟩
      exact ⟨_, compile_eq_ok_iff.mpr ⟨tree, hTree, hRoom, rfl⟩⟩
  occursIn_iff {pattern p} text hCompiled := by
    obtain ⟨tree, hTree, -, rfl⟩ := compile_eq_ok_iff.mp hCompiled
    have hSearch := occursIn_ofNode_iff tree.node tree.names text
    rw [String.length_toList] at hSearch
    simpa only [language, hTree, Except.ok.injEq, exists_eq_left', exists_and_left, compiled] using hSearch

end DocQuery.Pattern
