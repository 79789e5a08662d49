import Mathlib
import DocQuery.Proofs.Outcome
import DocQuery.Proofs.Pipeline.Run
import DocQuery.Proofs.Pipeline.Stage

/-!
The rows that a stage leaves out with an error. Every operation evaluates something for each row by
itself, so its errors are those of the rows at their places; a stage fails when there is one for every
row, and otherwise only a limit can fail.
-/

namespace DocQuery

def errorOf? {α : Type} : Outcome α → Option EvalError
  | .ok _ => none
  | .error e => some e

theorem errorOf?_eq_some_iff {α : Type} {outcome : Outcome α} {e : EvalError} :
    errorOf? outcome = some e ↔ outcome = .error e := by
  cases outcome <;> simp [errorOf?]

theorem errorOf?_eq_none_iff {α : Type} {outcome : Outcome α} :
    errorOf? outcome = none ↔ ∃ v, outcome = .ok v := by
  cases outcome <;> simp [errorOf?]

def IdMeaning.groupName? : IdMeaning → Option String
  | path => none
  | group name _ => some name

/-- What identifiers mean behind an operation. -/
def IdMeaning.behind (meaning : IdMeaning) : Operation → IdMeaning
  | .group key => group key.name meaning
  | .flatten target =>
    match meaning with
    | path => path
    | group name on => if name = target.name then on else group name on
  | _ => meaning

/-- The error that an operation meets at a row. A limit asks nothing of the rows, and neither does the
undoing of a grouping. -/
def Operation.fault? (c : Context) (meaning : IdMeaning) (operation : Operation) (row : Row) :
    Option EvalError :=
  match operation with
  | filter clause => errorOf? (Stage.valueOf c clause row)
  | having clause => errorOf? (Stage.valueOf c clause row)
  | sort fields => errorOf? (Stage.keysOf c fields row)
  | limit _ => none
  | group key => errorOf? (Stage.valueOf c key.expr row)
  | flatten target =>
    if meaning.groupName? = some target.name then none
    else errorOf? (Stage.valueOf c target.expr row)

namespace Stage

variable {α : Type} {c : Context} {rows : List Row}

/-- The errors at rows, each with the place of its row. -/
def faults (fault? : Row → Option EvalError) (rows : List Row) : List RowError :=
  rows.zipIdx.filterMap fun (row, index) => (fault? row).map (RowError.mk index)

/-- The errors of an evaluation are those of its rows. -/
theorem errors_evaluate (f : Row → Outcome α) (rows : List Row) :
    (evaluate f rows).errors = faults (fun row => errorOf? (f row)) rows := by
  refine congrArg (fun fault? => rows.zipIdx.filterMap fault?) (funext ?_)
  rintro ⟨row, index⟩
  dsimp only
  cases f row <;> rfl

theorem faults_none (rows : List Row) : faults (fun _ => none) rows = [] :=
  List.filterMap_eq_nil_iff.mpr fun _ _ => rfl

/-- The errors are those of the rows, each with the place of its row. -/
theorem mem_faults_iff {fault? : Row → Option EvalError} {e : RowError} :
    e ∈ faults fault? rows ↔ ∃ row, rows[e.index]? = some row ∧ fault? row = some e.error := by
  simp only [faults, List.mem_filterMap, Prod.exists, List.mk_mem_zipIdx_iff_getElem?,
    Option.map_eq_some_iff]
  constructor
  · rintro ⟨row, index, hRow, error, hFault, rfl⟩
    exact ⟨row, hRow, hFault⟩
  · rintro ⟨row, hRow, hFault⟩
    exact ⟨row, e.index, hRow, e.error, hFault, rfl⟩

theorem index_lt_of_mem_faults {fault? : Row → Option EvalError} {e : RowError}
    (h : e ∈ faults fault? rows) : e.index < rows.length := by
  obtain ⟨row, hRow, _⟩ := mem_faults_iff.mp h
  exact (List.getElem?_eq_some_iff.mp hRow).1

/-- Errors are listed in the order of their rows. -/
theorem faults_ascending (fault? : Row → Option EvalError) (rows : List Row) :
    (faults fault? rows).Pairwise fun a b => a.index < b.index := by
  refine List.pairwise_filterMap.mpr ((Sequence.pairwise_zipIdx rows).imp ?_)
  rintro ⟨row, index⟩ ⟨other, later⟩ hLess e hFirst e' hSecond
  obtain ⟨error, _, rfl⟩ := Option.map_eq_some_iff.mp hFirst
  obtain ⟨error', _, rfl⟩ := Option.map_eq_some_iff.mp hSecond
  exact hLess

/-- There are as many errors as rows that fail. -/
theorem length_faults (fault? : Row → Option EvalError) (rows : List Row) :
    (faults fault? rows).length = rows.countP fun row => (fault? row).isSome := by
  conv => rhs; rw [← List.zipIdx_map_fst 0 rows, List.countP_map]
  rw [faults, List.length_filterMap_eq_countP]
  congr 1
  funext (row, index)
  exact Option.isSome_map

/-- There are as many errors as rows when every row has one. -/
theorem length_faults_eq_iff {fault? : Row → Option EvalError} :
    (faults fault? rows).length = rows.length ↔ ∀ row ∈ rows, (fault? row).isSome = true := by
  rw [length_faults, List.countP_eq_length]

/-- Every row is either evaluated or left out with an error. -/
theorem length_evaluate (f : Row → Outcome α) (rows : List Row) :
    (evaluate f rows).rows.length + (evaluate f rows).errors.length = rows.length := by
  rw [errors_evaluate, length_faults, evaluate, List.length_filterMap_eq_countP,
    List.length_eq_countP_add_countP fun row => (errorOf? (f row)).isSome, Nat.add_comm]
  congr 2
  funext row
  cases f row <;> rfl

/-- The amount of a limit is a finite number that is not negative, of which the whole part counts. -/
def LimitsTo (c : Context) (amount : Expr) (count : Nat) : Prop :=
  ∃ n, amount.eval c none = .ok (.number n) ∧ n.isFinite = true ∧ n.isNegative = false ∧
    n.toCount = count

/-- A limit is the count that its amount stands for. -/
theorem limitCount_eq_ok_iff {amount : Expr} {count : Nat} :
    limitCount c amount = .ok count ↔ LimitsTo c amount count := by
  rw [limitCount, LimitsTo]
  cases amount.eval c none with
  | error e => exact iff_of_false nofun fun ⟨_, hValue, _⟩ => nomatch hValue
  | ok v =>
      cases v with
      | number n =>
          simp only [Bool.and_eq_true, Bool.not_eq_true', Except.ok.injEq, Value.number.injEq,
            ← and_assoc]
          split
          · next hAccepted => simp [hAccepted]
          · next hRefused => simp [hRefused]
      | _ => exact iff_of_false nofun fun ⟨_, hValue, _⟩ => nomatch hValue

/-- An amount that has a value is a limit or is refused for that value. -/
theorem limitCount_of_value {amount : Expr} {v : Value} (hValue : amount.eval c none = .ok v) :
    (∃ count, limitCount c amount = .ok count) ∨ limitCount c amount = .error (.invalidLimit v) := by
  rw [limitCount, hValue]
  cases v with
  | number n =>
      dsimp only
      split
      · exact .inl ⟨_, rfl⟩
      · exact .inr rfl
  | _ => exact .inr rfl

/-- An amount that limits nothing is reported with the error of its evaluation or with its value. -/
theorem limitCount_eq_error_iff {amount : Expr} {e : QueryError} :
    limitCount c amount = .error e ↔
      (∃ fault, amount.eval c none = .error fault ∧ e = .limitFailed fault) ∨
      ∃ v, amount.eval c none = .ok v ∧ (∀ count, ¬ LimitsTo c amount count) ∧
        e = .invalidLimit v := by
  constructor
  · intro hError
    cases hAmount : amount.eval c none with
    | error fault =>
        rw [limitCount, hAmount] at hError
        cases hError
        exact .inl ⟨fault, rfl, rfl⟩
    | ok v =>
        have hRefused (count : Nat) : ¬ LimitsTo c amount count := fun hCount =>
          nomatch hError.symm.trans (limitCount_eq_ok_iff.mpr hCount)
        rcases limitCount_of_value hAmount with ⟨count, hCount⟩ | hInvalid
        · exact absurd (limitCount_eq_ok_iff.mp hCount) (hRefused count)
        · cases hError.symm.trans hInvalid
          exact .inr ⟨v, rfl, hRefused, rfl⟩
  · rintro (⟨fault, hAmount, rfl⟩ | ⟨v, hAmount, hRefused, rfl⟩)
    · rw [limitCount, hAmount]
    · exact (limitCount_of_value hAmount).resolve_left fun ⟨count, hCount⟩ =>
        hRefused count (limitCount_eq_ok_iff.mp hCount)

end Stage

namespace Pipeline

variable {c : Context} {p q : Pipeline} {operation : Operation} {meaning : IdMeaning} {s : Stage Row}

/-- Limiting takes the first rows, as many as the limit says. -/
theorem attempt_limit_eq_ok_iff {amount : Expr} :
    p.attempt c (.limit amount) = .ok (meaning, s) ↔
      ∃ count, Stage.LimitsTo c amount count ∧
        meaning = p.meaning ∧ s = ⟨p.rows.take count, []⟩ := by
  rw [attempt, bind_eq_ok_iff]
  refine exists_congr fun count => and_congr Stage.limitCount_eq_ok_iff ?_
  constructor
  · intro hOk
    cases hOk
    exact ⟨rfl, rfl⟩
  · rintro ⟨rfl, rfl⟩
    rfl

/-- A grouping has the name that its identifiers carry. -/
theorem groupName?_eq_some_iff {name : String} :
    meaning.groupName? = some name ↔ ∃ on, meaning = .group name on := by
  cases meaning with
  | path => exact iff_of_false nofun nofun
  | group other on =>
      simp [IdMeaning.groupName?]

/-- A grouping is undone without an error for any row. -/
theorem fault?_undo {target : NamedExpr} (hName : meaning.groupName? = some target.name) :
    Operation.fault? c meaning (.flatten target) = fun _ => none :=
  funext fun _ => if_pos hName

/-- Where a name is not that of the grouping at hand, a flattening fails where its expression fails. -/
theorem fault?_spread {target : NamedExpr} (hName : meaning.groupName? ≠ some target.name) :
    Operation.fault? c meaning (.flatten target) =
      fun row => errorOf? (Stage.valueOf c target.expr row) :=
  funext fun _ => if_neg hName

/-- What an operation records follows from what identifiers mean and from the rows one by one. -/
theorem attempt_records (h : p.attempt c operation = .ok (meaning, s)) :
    meaning = p.meaning.behind operation ∧
      s.errors = Stage.faults (operation.fault? c p.meaning) p.rows := by
  cases operation with
  | filter clause | having clause | sort fields | group key =>
      cases h
      exact ⟨rfl, Stage.errors_evaluate _ _⟩
  | limit amount =>
      obtain ⟨count, _, rfl, rfl⟩ := attempt_limit_eq_ok_iff.mp h
      exact ⟨rfl, (Stage.faults_none p.rows).symm⟩
  | flatten target =>
      have hFlatten : p.flatten c target = (meaning, s) := Except.ok.inj h
      rcases flatten_cases c p target with ⟨on, hMeaning, hUndo⟩ | ⟨hOther, hSpread⟩
      · cases hUndo.symm.trans hFlatten
        rw [fault?_undo (groupName?_eq_some_iff.mpr ⟨_, hMeaning⟩), Stage.faults_none, hMeaning]
        exact ⟨(if_pos rfl).symm, rfl⟩
      · cases hSpread.symm.trans hFlatten
        have hName : p.meaning.groupName? ≠ some target.name := fun hName =>
          (groupName?_eq_some_iff.mp hName).elim hOther
        rw [fault?_spread hName]
        refine ⟨?_, Stage.errors_evaluate _ _⟩
        cases hMeaning : p.meaning with
        | path => rfl
        | group name on =>
            rw [hMeaning] at hName
            exact (if_neg fun hEq => hName (congrArg some hEq)).symm

/-! ### Failures -/

/-- An operation fails on the rows in front of it: the amount of a limit is no such number, or there are
rows and every one of them has an error. -/
inductive Refuses (c : Context) (p : Pipeline) : Operation → QueryError → Prop where
  | limitFailed {amount : Expr} {fault : EvalError} (hAmount : amount.eval c none = .error fault) :
      Refuses c p (.limit amount) (.limitFailed fault)
  | invalidLimit {amount : Expr} {v : Value} (hAmount : amount.eval c none = .ok v)
      (hRefused : ∀ count, ¬ Stage.LimitsTo c amount count) :
      Refuses c p (.limit amount) (.invalidLimit v)
  | everyRowFailed {operation : Operation} (hRows : p.rows ≠ [])
      (hFaults : ∀ row ∈ p.rows, (operation.fault? c p.meaning row).isSome = true) :
      Refuses c p operation (.everyRowFailed operation.kind
        ((Stage.faults (operation.fault? c p.meaning) p.rows).take quotedErrors))

/-- An attempt fails for a limit that is refused, and for nothing else. -/
theorem attempt_eq_error_iff {e : QueryError} :
    p.attempt c operation = .error e ↔
      ∃ amount, operation = .limit amount ∧ Stage.limitCount c amount = .error e := by
  cases operation with
  | limit amount =>
      rw [attempt, bind_eq_error_iff]
      constructor
      · rintro (hLimit | ⟨_, _, hOk⟩)
        · exact ⟨amount, rfl, hLimit⟩
        · cases hOk
      · rintro ⟨_, hEq, hLimit⟩
        cases hEq
        exact .inl hLimit
  | filter | having | sort | group | flatten => simp [attempt]

/-- A stage is refused when it fails on every row, and quotes the first errors. -/
theorem accept_eq_error_iff {kind : String} {e : QueryError} :
    p.accept kind meaning s = .error e ↔
      ¬ Passes p.rows.length s ∧ e = .everyRowFailed kind (s.errors.take quotedErrors) := by
  cases hAccept : p.accept kind meaning s with
  | ok q =>
      have hPasses := (accept_eq_ok_iff.mp hAccept).1
      exact iff_of_false nofun fun h => h.1 hPasses
  | error fault =>
      have hFails : ¬ Passes p.rows.length s := fun hPasses =>
        nomatch hAccept.symm.trans (accept_eq_ok_iff.mpr ⟨hPasses, rfl⟩)
      rw [accept] at hAccept
      split at hAccept
      · cases hAccept
        rw [Except.error.injEq, and_iff_right hFails, eq_comm]
      · cases hAccept

/-- A stage does not pass when there are rows and all of them fail. -/
theorem not_passes_iff (hErrors : s.errors = Stage.faults (operation.fault? c p.meaning) p.rows) :
    ¬ Passes p.rows.length s ↔
      p.rows ≠ [] ∧ ∀ row ∈ p.rows, (operation.fault? c p.meaning row).isSome = true := by
  rw [Passes, not_or, not_not, hErrors, Stage.length_faults_eq_iff, List.length_eq_zero_iff]

/-- A step fails as it is refused. -/
theorem step_eq_error_iff {e : QueryError} : p.step c operation = .error e ↔ Refuses c p operation e := by
  rw [step_eq_attempt, bind_eq_error_iff, attempt_eq_error_iff]
  constructor
  · rintro (⟨amount, rfl, hLimit⟩ | ⟨⟨meaning, s⟩, hAttempt, hAccept⟩)
    · rcases Stage.limitCount_eq_error_iff.mp hLimit with
        ⟨fault, hAmount, rfl⟩ | ⟨v, hAmount, hRefused, rfl⟩
      · exact .limitFailed hAmount
      · exact .invalidLimit hAmount hRefused
    · obtain ⟨hFails, rfl⟩ := accept_eq_error_iff.mp hAccept
      obtain ⟨_, hErrors⟩ := attempt_records hAttempt
      obtain ⟨hRows, hFaults⟩ := (not_passes_iff hErrors).mp hFails
      rw [hErrors]
      exact .everyRowFailed hRows hFaults
  · intro hRefuses
    cases hRefuses with
    | limitFailed hAmount =>
        exact .inl ⟨_, rfl, Stage.limitCount_eq_error_iff.mpr (.inl ⟨_, hAmount, rfl⟩)⟩
    | invalidLimit hAmount hRefused =>
        exact .inl ⟨_, rfl, Stage.limitCount_eq_error_iff.mpr (.inr ⟨_, hAmount, hRefused, rfl⟩)⟩
    | everyRowFailed hRows hFaults =>
        refine .inr ?_
        cases hAttempt : p.attempt c operation with
        | error fault =>
            -- A limit asks nothing of the rows, so it has no error for any of them.
            obtain ⟨amount, rfl, _⟩ := attempt_eq_error_iff.mp hAttempt
            obtain ⟨row, hRow⟩ := List.exists_mem_of_ne_nil _ hRows
            cases hFaults row hRow
        | ok outcome =>
            obtain ⟨meaning, s⟩ := outcome
            obtain ⟨_, hErrors⟩ := attempt_records hAttempt
            refine ⟨_, rfl, accept_eq_error_iff.mpr ⟨(not_passes_iff hErrors).mpr ⟨hRows, hFaults⟩, ?_⟩⟩
            rw [hErrors]

/-- A run fails at the first operation that fails on what those before it have left. -/
theorem runFrom_eq_error_iff {operations : List Operation} {e : QueryError} :
    runFrom c p operations = .error e ↔
      ∃ before operation rest middle, operations = before ++ operation :: rest ∧
        runFrom c p before = .ok middle ∧ Refuses c middle operation e := by
  induction operations generalizing p with
  | nil =>
      constructor
      · nofun
      · rintro ⟨before, operation, rest, _, hEq, _⟩
        exact absurd hEq.symm (List.append_ne_nil_of_right_ne_nil before (List.cons_ne_nil operation rest))
  | cons operation rest ih =>
      rw [runFrom, bind_eq_error_iff, step_eq_error_iff]
      constructor
      · rintro (hRefuses | ⟨middle, hStep, hRest⟩)
        · exact ⟨[], operation, rest, p, rfl, rfl, hRefuses⟩
        · obtain ⟨before, last, after, reached, rfl, hBefore, hRefuses⟩ := ih.mp hRest
          exact ⟨operation :: before, last, after, reached, rfl,
            runFrom_cons_eq_ok_iff.mpr ⟨middle, hStep, hBefore⟩, hRefuses⟩
      · rintro ⟨before, last, after, reached, hEq, hBefore, hRefuses⟩
        cases before with
        | nil =>
            cases hEq
            cases hBefore
            exact .inl hRefuses
        | cons first before =>
            cases hEq
            obtain ⟨middle, hStep, hBefore⟩ := runFrom_cons_eq_ok_iff.mp hBefore
            exact .inr ⟨middle, hStep, ih.mpr ⟨before, last, after, reached, rfl, hBefore, hRefuses⟩⟩

end Pipeline
end DocQuery
