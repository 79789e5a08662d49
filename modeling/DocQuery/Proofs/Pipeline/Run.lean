import DocQuery.Pipeline

/-!
One step of a pipeline, taken apart: what the operation makes of the rows, whether enough rows passed
for it to be accepted, and what is recorded. Runs are inductions over steps.
-/

namespace DocQuery.Pipeline

variable {c : Context} {p q : Pipeline}

/-- What an operation makes of the rows before it is accepted: what identifiers mean behind it, and
the stage. -/
def attempt (c : Context) (p : Pipeline) : Operation → Except QueryError (IdMeaning × Stage Row)
  | .filter clause => .ok (p.meaning, Stage.filter c clause p.rows)
  | .having clause => .ok (p.meaning, Stage.filter c clause p.rows)
  | .sort fields => .ok (p.meaning, Stage.sort c fields p.rows)
  | .limit amount => do
    let count ← Stage.limitCount c amount
    return (p.meaning, ⟨p.rows.take count, []⟩)
  | .group key => .ok (.group key.name p.meaning, Stage.group c key p.rows)
  | .flatten target => .ok (p.flatten c target)

/-- Some row of an input that is not empty did not fail. -/
def Passes (incoming : Nat) (s : Stage Row) : Prop := incoming = 0 ∨ s.errors.length ≠ incoming

def advance (p : Pipeline) (operation : String) (meaning : IdMeaning) (s : Stage Row) :
    Pipeline where
  rows := s.rows
  meaning := meaning
  diagnostics := p.diagnostics ++ [⟨operation, p.rows.length, s.rows.length, s.errors⟩]

/-- A step is an attempt whose outcome is accepted. -/
theorem step_eq_attempt (c : Context) (p : Pipeline) (operation : Operation) :
    p.step c operation =
      (do
        let (meaning, s) ← p.attempt c operation
        p.accept operation.kind meaning s) := by
  cases operation with
  | limit amount =>
      simp only [step, attempt]
      cases Stage.limitCount c amount <;> rfl
  | _ => rfl

/-- A stage is accepted when it passes, and then recorded. -/
theorem accept_eq_ok_iff {operation : String} {meaning : IdMeaning} {s : Stage Row} :
    p.accept operation meaning s = .ok q ↔
      Passes p.rows.length s ∧ q = p.advance operation meaning s := by
  unfold accept Passes
  split
  · next hFails =>
      simp only [Bool.and_eq_true, bne_iff_ne, beq_iff_eq] at hFails
      constructor
      · nofun
      · rintro ⟨hPasses, _⟩
        omega
  · next hPasses =>
      simp only [Bool.and_eq_true, bne_iff_ne, beq_iff_eq] at hPasses
      have hEither : p.rows.length = 0 ∨ s.errors.length ≠ p.rows.length := by omega
      constructor
      · intro hAccept
        cases hAccept
        exact ⟨hEither, rfl⟩
      · rintro ⟨_, rfl⟩
        rfl

/-- A step succeeds when its attempt does and its stage passes. -/
theorem step_eq_ok_iff {operation : Operation} :
    p.step c operation = .ok q ↔
      ∃ meaning s, p.attempt c operation = .ok (meaning, s) ∧ Passes p.rows.length s ∧
        q = p.advance operation.kind meaning s := by
  rw [step_eq_attempt]
  cases hAttempt : p.attempt c operation with
  | error e =>
      constructor
      · nofun
      · rintro ⟨_, _, hOk, _⟩
        cases hOk
  | ok outcome =>
      obtain ⟨meaning, s⟩ := outcome
      constructor
      · intro hAccept
        exact ⟨meaning, s, rfl, accept_eq_ok_iff.mp hAccept⟩
      · rintro ⟨_, _, hOk, hPasses, rfl⟩
        cases hOk
        exact accept_eq_ok_iff.mpr ⟨hPasses, rfl⟩

/-- A step whose attempt is known succeeds when its stage passes. -/
theorem step_eq_ok_iff_of_attempt {operation : Operation} {meaning : IdMeaning} {s : Stage Row}
    (hAttempt : p.attempt c operation = .ok (meaning, s)) :
    p.step c operation = .ok q ↔
      Passes p.rows.length s ∧ q = p.advance operation.kind meaning s := by
  rw [step_eq_attempt, hAttempt]
  exact accept_eq_ok_iff

/-- Flattening by the name of the present grouping undoes it, and any other flattening spreads. -/
theorem flatten_cases (c : Context) (p : Pipeline) (target : NamedExpr) :
    (∃ on, p.meaning = .group target.name on ∧
      p.flatten c target = (on, ⟨Stage.ungroup target.name p.rows, []⟩)) ∨
    ((∀ on, p.meaning ≠ .group target.name on) ∧
      p.flatten c target = (p.meaning, Stage.flatten c target p.rows)) := by
  unfold flatten
  cases hMeaning : p.meaning with
  | path => exact Or.inr ⟨nofun, rfl⟩
  | group name on =>
      by_cases hName : name = target.name
      · subst hName
        exact Or.inl ⟨on, rfl, by simp⟩
      · refine Or.inr ⟨?_, by simp [hName]⟩
        intro on hEq
        cases hEq
        exact hName rfl

/-- A run goes on behind its first step. -/
theorem runFrom_cons_eq_ok_iff {operation : Operation} {rest : List Operation} :
    runFrom c p (operation :: rest) = .ok q ↔
      ∃ middle, p.step c operation = .ok middle ∧ runFrom c middle rest = .ok q := by
  rw [runFrom]
  cases p.step c operation with
  | error e =>
      constructor
      · nofun
      · rintro ⟨_, hStep, _⟩
        cases hStep
  | ok middle =>
      constructor
      · intro hRun
        exact ⟨middle, rfl, hRun⟩
      · rintro ⟨_, hStep, hRun⟩
        cases hStep
        exact hRun

theorem runFrom_single (c : Context) (p : Pipeline) (operation : Operation) :
    runFrom c p [operation] = p.step c operation := by
  rw [runFrom]
  cases p.step c operation <;> rfl

/-- A run of one operation whose attempt is known. -/
theorem run_single_eq_ok_iff {rows : List Row} {operation : Operation} {meaning : IdMeaning}
    {s : Stage Row} (hAttempt : attempt c { rows } operation = .ok (meaning, s)) :
    run c rows [operation] = .ok p ↔
      Passes rows.length s ∧ p = advance { rows } operation.kind meaning s := by
  rw [run, runFrom_single]
  exact step_eq_ok_iff_of_attempt hAttempt

/-- Two operations one after the other succeed when the stages of both are accepted. -/
theorem run_pair_eq_ok_iff {rows : List Row} {first second : Operation} {meaning last : IdMeaning}
    {s t : Stage Row} (hFirst : attempt c { rows } first = .ok (meaning, s))
    (hSecond : (advance { rows } first.kind meaning s).attempt c second = .ok (last, t)) :
    run c rows [first, second] = .ok p ↔
      Passes rows.length s ∧ Passes s.rows.length t ∧
        p = (advance { rows } first.kind meaning s).advance second.kind last t := by
  rw [run, runFrom_cons_eq_ok_iff]
  simp only [runFrom_single, step_eq_ok_iff_of_attempt hFirst]
  constructor
  · rintro ⟨_, ⟨hPasses, rfl⟩, hStep⟩
    exact ⟨hPasses, (step_eq_ok_iff_of_attempt hSecond).mp hStep⟩
  · rintro ⟨hPasses, hSecondStage⟩
    exact ⟨_, ⟨hPasses, rfl⟩, (step_eq_ok_iff_of_attempt hSecond).mpr hSecondStage⟩

/-- What every step keeps, every run keeps. -/
theorem runFrom_invariant {I : Pipeline → Prop}
    (hStep : ∀ p operation q, I p → p.step c operation = .ok q → I q)
    {operations : List Operation} (hStart : I p) (hRun : runFrom c p operations = .ok q) : I q := by
  induction operations generalizing p with
  | nil =>
      cases hRun
      exact hStart
  | cons operation rest ih =>
      obtain ⟨middle, hFirst, hRest⟩ := runFrom_cons_eq_ok_iff.mp hRun
      exact ih (hStep p operation middle hStart hFirst) hRest

end DocQuery.Pipeline
