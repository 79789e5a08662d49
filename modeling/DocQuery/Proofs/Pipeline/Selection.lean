import Mathlib
import DocQuery.Proofs.Pipeline.Diagnostics
import DocQuery.Proofs.Sequence.Sort

/-!
Filters and sorting as functions of the rows alone. What a stage evaluates for a row does not depend on
the other rows, so a filter keeps the rows with a property, and sorting keeps the rows that have values
for all fields and puts them into an order of rows.
-/

namespace DocQuery

variable {c : Context} {rows : List Row}

namespace Stage

/-- Whether a clause has a value for a row that counts as true. -/
def keeps (c : Context) (clause : Expr) (row : Row) : Bool :=
  match valueOf c clause row with
  | .ok v => v.truthy
  | .error _ => false

/-- A row is kept when its clause has a true value. -/
theorem keeps_eq_true_iff {clause : Expr} {row : Row} :
    keeps c clause row = true ↔ ∃ v, valueOf c clause row = .ok v ∧ v.truthy = true := by
  rw [keeps]
  cases valueOf c clause row with
  | error e => simp
  | ok v => simp

/-- Whether all sort fields have values for a row. -/
def hasKeys (c : Context) (fields : List SortField) (row : Row) : Bool :=
  fields.all fun field => (errorOf? (valueOf c field.expr row)).isNone

/-- The value of a sort field for a row. It counts as missing where there is none, which makes no
difference to rows that are sorted. -/
def keyOf (c : Context) (row : Row) (field : SortField) : Value :=
  match valueOf c field.expr row with
  | .ok v => v
  | .error _ => .null

def orderRows (c : Context) (fields : List SortField) (a b : Row) : Ordering :=
  orderKeys c fields (fields.map (keyOf c a)) (fields.map (keyOf c b))

/-- Filtering keeps the rows that are to be kept. -/
theorem filter_rows_eq (c : Context) (clause : Expr) (rows : List Row) :
    (filter c clause rows).rows = rows.filter (keeps c clause) := by
  have hKeeps : keeps c clause = fun row => (valueOf c clause row).toOption.any Value.truthy := by
    funext row
    rw [keeps]
    cases valueOf c clause row <;> rfl
  rw [hKeeps]
  exact filter_evaluate_rows (valueOf c clause) Value.truthy rows

theorem keysOf_cons (field : SortField) (fields : List SortField) (row : Row) :
    keysOf c (field :: fields) row = (do
      let v ← valueOf c field.expr row
      return v :: (← keysOf c fields row)) :=
  rfl

/-- A row has its keys or fails, depending on all fields. -/
theorem keysOf_cases (c : Context) (fields : List SortField) (row : Row) :
    (hasKeys c fields row = true ∧ keysOf c fields row = .ok (fields.map (keyOf c row))) ∨
    (hasKeys c fields row = false ∧ ∃ e, keysOf c fields row = .error e) := by
  induction fields with
  | nil => exact .inl ⟨rfl, rfl⟩
  | cons field fields ih =>
      rw [keysOf_cons, hasKeys, List.all_cons, List.map_cons, keyOf]
      cases valueOf c field.expr row with
      | error e => exact .inr ⟨rfl, e, rfl⟩
      | ok v =>
          rcases ih with ⟨hKeys, hValues⟩ | ⟨hKeys, e, hError⟩
          · exact .inl ⟨hKeys, by rw [hValues]; rfl⟩
          · exact .inr ⟨hKeys, e, by rw [hError]; rfl⟩

/-- The rows with values for all sort fields, each beside these values. -/
theorem evaluate_keysOf_rows (c : Context) (fields : List SortField) (rows : List Row) :
    (evaluate (keysOf c fields) rows).rows =
      (rows.filter (hasKeys c fields)).map fun row => (fields.map (keyOf c row), row) := by
  induction rows with
  | nil => rfl
  | cons row rest ih =>
      simp only [evaluate, List.filterMap_cons, List.filter_cons] at ih ⊢
      rcases keysOf_cases c fields row with ⟨hKeys, hValues⟩ | ⟨hKeys, e, hError⟩
      · simp [hKeys, hValues, ih]
      · simp [hKeys, hError, ih]

/-- Sorting orders the rows that have keys. -/
theorem sort_rows_eq (c : Context) (fields : List SortField) (rows : List Row) :
    (sort c fields rows).rows =
      Sequence.sortBy (orderRows c fields) (rows.filter (hasKeys c fields)) := by
  rw [sort, andThen, evaluate_keysOf_rows, Sequence.sortBy_map, List.map_map]
  exact List.map_id _

/-- The order of rows is transitive when comparisons are those of values. -/
theorem orderRows_transCmp (hStandard : c.operators = .standard) (fields : List SortField) :
    Std.TransCmp (orderRows c fields) := by
  have hKeys := orderKeys_transCmp hStandard fields
  exact transCmp_comap (fun as bs : KeyVector fields => orderKeys c fields as.1 bs.1)
    fun row => ⟨fields.map (keyOf c row), List.length_map _⟩

theorem hasKeys_append (fields others : List SortField) (row : Row) :
    hasKeys c (fields ++ others) row = (hasKeys c fields row && hasKeys c others row) :=
  List.all_append

/-- The fields behind decide where those in front leave the matter open. -/
theorem orderRows_append (c : Context) (fields others : List SortField) :
    orderRows c (fields ++ others) = compareLex (orderRows c fields) (orderRows c others) := by
  funext a b
  induction fields with
  | nil => rfl
  | cons field fields ih =>
      have hStep (rest : List SortField) : orderRows c (field :: rest) a b =
          (directed field.direction (order c (keyOf c a field) (keyOf c b field))).then
            (orderRows c rest a b) := rfl
      rw [List.cons_append, hStep, ih, compareLex, compareLex, hStep, Ordering.then_assoc]

end Stage

namespace Pipeline

variable {s t : Stage Row}

/-- A stage that lets a row through is accepted. -/
theorem passes_of_rows_ne_nil {incoming : Nat}
    (hCount : s.rows.length + s.errors.length ≤ incoming) (hRows : s.rows ≠ []) :
    Passes incoming s := by
  have hSome := List.length_pos_iff.mpr hRows
  exact .inr (by omega)

/-- A run of one operation has rows when its stage has. -/
theorem exists_run_single_iff {operation : Operation} {meaning : IdMeaning}
    (hAttempt : attempt c { rows } operation = .ok (meaning, s))
    (hCount : s.rows.length + s.errors.length ≤ rows.length) :
    (∃ p, run c rows [operation] = .ok p ∧ p.rows ≠ []) ↔ s.rows ≠ [] := by
  constructor
  · rintro ⟨p, hRun, hSome⟩
    obtain ⟨_, rfl⟩ := (run_single_eq_ok_iff hAttempt).mp hRun
    exact hSome
  · intro hSome
    exact ⟨_, (run_single_eq_ok_iff hAttempt).mpr ⟨passes_of_rows_ne_nil hCount hSome, rfl⟩, hSome⟩

/-- Two stages return a row when the second does, if one that returns a row is accepted. -/
theorem exists_run_pair_iff_of_passes {first second : Operation} {meaning last : IdMeaning}
    (hFirst : attempt c { rows } first = .ok (meaning, s))
    (hSecond : (advance { rows } first.kind meaning s).attempt c second = .ok (last, t))
    (hIncoming : s.rows ≠ [] → Passes rows.length s) (hBetween : t.rows ≠ [] → Passes s.rows.length t)
    (hMiddle : t.rows ≠ [] → s.rows ≠ []) :
    (∃ p, run c rows [first, second] = .ok p ∧ p.rows ≠ []) ↔ t.rows ≠ [] := by
  constructor
  · rintro ⟨p, hRun, hSome⟩
    obtain ⟨_, _, rfl⟩ := (run_pair_eq_ok_iff hFirst hSecond).mp hRun
    exact hSome
  · intro hSome
    exact ⟨_, (run_pair_eq_ok_iff hFirst hSecond).mpr ⟨hIncoming (hMiddle hSome), hBetween hSome, rfl⟩,
      hSome⟩

/-- Two stages that select rows return one when the second does, and then nothing fails. -/
theorem exists_run_pair_iff {first second : Operation} {meaning last : IdMeaning}
    (hFirst : attempt c { rows } first = .ok (meaning, s))
    (hSecond : (advance { rows } first.kind meaning s).attempt c second = .ok (last, t))
    (hIncoming : s.rows.length + s.errors.length ≤ rows.length)
    (hBetween : t.rows.length + t.errors.length ≤ s.rows.length) :
    (∃ p, run c rows [first, second] = .ok p ∧ p.rows ≠ []) ↔ t.rows ≠ [] := by
  apply exists_run_pair_iff_of_passes hFirst hSecond (passes_of_rows_ne_nil hIncoming)
    (passes_of_rows_ne_nil hBetween)
  intro hSome
  have hPos := List.length_pos_iff.mpr hSome
  exact List.length_pos_iff.mp (by omega)

/-! ### Sample rows -/

/-- A flag under a key, and the key to look it up with. Without a flag the key is no text, so that looking
it up fails. -/
def flagAndKey : Option Bool → Value × Value
  | some flag => (.object [("k", .boolean flag)], .string "k")
  | none => (.object [], .boolean true)

def twoFlagRow (id : String) (first other : Option Bool) : Row :=
  .single (.string id) [("x", (flagAndKey first).1), ("i", (flagAndKey first).2),
    ("y", (flagAndKey other).1), ("j", (flagAndKey other).2)]

/-- Rows with two flags, of which some lack the one or the other. -/
def twoFlagRows : List Row :=
  [twoFlagRow "a" (some true) (some true), twoFlagRow "b" none (some true),
    twoFlagRow "c" (some false) none, twoFlagRow "d" (some true) none,
    twoFlagRow "e" (some false) (some true), twoFlagRow "f" (some true) (some false)]

def firstFlag : Expr := .index (.name "x") (.name "i")

def otherFlag : Expr := .index (.name "y") (.name "j")

end Pipeline
end DocQuery
