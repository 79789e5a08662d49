import DocQuery.Proofs.Eval.Comparison
import DocQuery.Proofs.Keyed

/-!
What an expression reads. Its value, and its failure, come from the values of its variables and from the
parts of the context that all rows share: links, settings, the present, patterns, operators and functions.
Whatever else a row or the global variables hold makes no difference.
-/

namespace DocQuery

namespace Context

/-- What a name stands for: a field of the row, then the row itself under the name `row`, then a global
variable, then null. -/
inductive Resolves (c : Context) : Option Object → String → Value → Prop where
  | field {fields : Object} {name : String} {v : Value} (hField : Keyed.get? fields name = some v) :
      Resolves c (some fields) name v
  | wholeRow {fields : Object} (hField : Keyed.get? fields "row" = none) :
      Resolves c (some fields) "row" (.object fields)
  | global {row : Option Object} {name : String} {v : Value}
      (hRow : ∀ fields, row = some fields → Keyed.get? fields name = none ∧ name ≠ "row")
      (hGlobal : c.get? name = some v) : Resolves c row name v
  | unknown {row : Option Object} {name : String}
      (hRow : ∀ fields, row = some fields → Keyed.get? fields name = none ∧ name ≠ "row")
      (hGlobal : c.get? name = none) : Resolves c row name .null

variable {c d : Context} {row : Option Object} {name : String} {v : Value}

theorem lookup_none (c : Context) (name : String) :
    c.lookup none name = (c.get? name).getD .null :=
  rfl

/-- Fields come before the name `row`, and that comes before the global variables. -/
theorem lookup_some (c : Context) (fields : Object) (name : String) :
    c.lookup (some fields) name =
      (Keyed.get? fields name).getD
        (if name = "row" then .object fields else (c.get? name).getD .null) := by
  simp only [lookup, bind, Option.bind]
  cases Keyed.get? fields name with
  | some v => rfl
  | none =>
      by_cases hName : name = "row"
      · simp [hName]
      · simp [hName]

/-- Setting a field is seen under its own name and under `row` only. -/
theorem lookup_set_of_ne (c : Context) (fields : Object) {set other : String} (v : Value)
    (hOther : other ≠ set) (hRow : other ≠ "row") :
    c.lookup (some (Keyed.set fields set v)) other = c.lookup (some fields) other := by
  rw [lookup_some, lookup_some, Keyed.get?_set_of_ne fields v hOther, if_neg hRow, if_neg hRow]

/-- A name that the row has nothing for is looked up among the global variables. -/
theorem lookup_of_not_in_row
    (hRow : ∀ fields, row = some fields → Keyed.get? fields name = none ∧ name ≠ "row") :
    c.lookup row name = (c.get? name).getD .null := by
  cases row with
  | none => exact lookup_none c name
  | some fields =>
      obtain ⟨hField, hOther⟩ := hRow fields rfl
      rw [lookup_some, hField, if_neg hOther, Option.getD_none]

/-- A name stands for what is looked up under it. -/
theorem Resolves.lookup_eq (h : c.Resolves row name v) : c.lookup row name = v := by
  cases h with
  | field hField => rw [lookup_some, hField, Option.getD_some]
  | wholeRow hField => rw [lookup_some, hField, Option.getD_none, if_pos rfl]
  | global hRow hGlobal => rw [lookup_of_not_in_row hRow, hGlobal, Option.getD_some]
  | unknown hRow hGlobal => rw [lookup_of_not_in_row hRow, hGlobal, Option.getD_none]

/-- A name that the row has nothing for stands for a global variable or for null. -/
theorem resolves_of_not_in_row
    (hRow : ∀ fields, row = some fields → Keyed.get? fields name = none ∧ name ≠ "row") :
    c.Resolves row name (c.lookup row name) := by
  rw [lookup_of_not_in_row hRow]
  cases hGlobal : c.get? name with
  | some v => exact .global hRow hGlobal
  | none => exact .unknown hRow hGlobal

/-- Whatever is looked up under a name is what it stands for. -/
theorem resolves_lookup (c : Context) (row : Option Object) (name : String) :
    c.Resolves row name (c.lookup row name) := by
  cases row with
  | none => exact resolves_of_not_in_row nofun
  | some fields =>
      cases hField : Keyed.get? fields name with
      | some v =>
          rw [lookup_some, hField, Option.getD_some]
          exact .field hField
      | none =>
          by_cases hName : name = "row"
          · subst hName
            rw [lookup_some, hField, Option.getD_none, if_pos rfl]
            exact .wholeRow hField
          · apply resolves_of_not_in_row
            intro other hOther
            cases hOther
            exact ⟨hField, hName⟩

/-- A name always stands for something, and for one thing only. -/
theorem resolves_iff : c.Resolves row name v ↔ c.lookup row name = v := by
  constructor
  · exact Resolves.lookup_eq
  · rintro rfl
    exact resolves_lookup c row name

/-- Contexts that differ in their global variables at most. So they share the present too, which is one
moment for all evaluations in either of them, and the engine of patterns. -/
structure Shares (c d : Context) : Prop where
  surroundings : c.toCallScope = d.toCallScope
  functions : c.functions = d.functions

theorem Shares.refl (c : Context) : Shares c c := ⟨rfl, rfl⟩

theorem Shares.apply (h : c.Shares d) (op : Op) (a b : Value) : c.apply op a b = d.apply op a b := by
  rw [h.surroundings]

theorem Shares.index (h : c.Shares d) (container key : Value) :
    c.index container key = d.index container key := by
  rw [Context.index, Context.index, h.surroundings]

theorem Shares.call (h : c.Shares d) (name : String) (args : List Value) :
    c.call name args = d.call name args := by
  rw [Context.call, Context.call, h.surroundings, h.functions]

end Context

namespace Expr

mutual

/-- The variables of an expression, in order. What is called is a name of a function, no variable. -/
def vars : Expr → List String
  | literal _ => []
  | .name n => [n]
  | .not operand => operand.vars
  | binary _ left right => left.vars ++ right.vars
  | list items => varsOfItems items
  | object entries => varsOfEntries entries
  | .index container key => container.vars ++ key.vars
  | call _ args => varsOfItems args

def varsOfItems : List Expr → List String
  | [] => []
  | item :: rest => item.vars ++ varsOfItems rest

def varsOfEntries : List (String × Expr) → List String
  | [] => []
  | (_, item) :: rest => item.vars ++ varsOfEntries rest

end

/-- Names that have the same values for two rows in two contexts. -/
def Agree (c d : Context) (row other : Option Object) (names : List String) : Prop :=
  ∀ name ∈ names, c.lookup row name = d.lookup other name

variable {c d : Context} {row other : Option Object} {names more : List String}

theorem Agree.left (h : Agree c d row other (names ++ more)) : Agree c d row other names := by
  intro name hName
  exact h name (List.mem_append_left more hName)

theorem Agree.right (h : Agree c d row other (names ++ more)) : Agree c d row other more := by
  intro name hName
  exact h name (List.mem_append_right names hName)

mutual

/-- The value of an expression depends on its variables only. The induction is over the expression, since
each part has some of its variables. -/
theorem eval_congr (hShares : c.Shares d) (e : Expr) (h : Agree c d row other e.vars) :
    e.eval c row = e.eval d other := by
  match e with
  | literal v => rfl
  | .name n =>
      rw [eval, eval, h n (List.mem_singleton_self n)]
  | .not operand =>
      rw [eval, eval, eval_congr hShares operand h]
  | binary op left right =>
      rw [vars] at h
      simp only [eval, eval_congr hShares left h.left, eval_congr hShares right h.right, hShares.apply]
  | list items =>
      rw [eval, eval, evalItems_congr hShares items h]
  | object entries =>
      rw [eval, eval, evalEntries_congr hShares entries h]
  | .index container key =>
      rw [vars] at h
      simp only [eval, eval_congr hShares container h.left, eval_congr hShares key h.right,
        hShares.index]
  | call callee args =>
      cases callee with
      | name function =>
          simp only [eval, evalItems_congr hShares args h, hShares.call]
      | _ => rfl

theorem evalItems_congr (hShares : c.Shares d) (items : List Expr)
    (h : Agree c d row other (varsOfItems items)) :
    evalItems c row items = evalItems d other items := by
  match items with
  | [] => rfl
  | item :: rest =>
      rw [varsOfItems] at h
      rw [evalItems, evalItems, eval_congr hShares item h.left, evalItems_congr hShares rest h.right]

theorem evalEntries_congr (hShares : c.Shares d) (entries : List (String × Expr))
    (h : Agree c d row other (varsOfEntries entries)) :
    evalEntries c row entries = evalEntries d other entries := by
  match entries with
  | [] => rfl
  | (key, item) :: rest =>
      rw [varsOfEntries] at h
      rw [evalEntries, evalEntries, eval_congr hShares item h.left,
        evalEntries_congr hShares rest h.right]

end

/-- An expression has the same value, or fails for the same reason, wherever its variables stand for the
same values. -/
theorem eval_eq_of_resolves (e : Expr) (c d : Context) (hShares : c.Shares d) (row other : Option Object)
    (hSame : ∀ name ∈ e.vars, ∃ v, c.Resolves row name v ∧ d.Resolves other name v) :
    e.eval c row = e.eval d other := by
  apply eval_congr hShares
  intro name hName
  obtain ⟨v, hHere, hThere⟩ := hSame name hName
  rw [Context.resolves_iff.mp hHere, Context.resolves_iff.mp hThere]

/-- Whether the state is open; where there is none, another wish counts. -/
def stateIsOpen : Expr :=
  .binary .equal (.call (.name "default") [.name "state", .name "wish"]) (.literal (.string "open"))

def stateContext (state : String) : Context := Context.bare.set "state" (.string state)

/-- A row with a state of its own, and with a field that has the name of a function. -/
def stateRow : Object := [("default", .boolean true), ("state", .string "open")]

/-- The state is a global variable here, and there a field that hides one. -/
theorem eval_eq_of_resolves_shadowed :
    (stateContext "open").Shares (stateContext "done") ∧
    (∀ name ∈ stateIsOpen.vars, ∃ v, (stateContext "open").Resolves none name v ∧
      (stateContext "done").Resolves (some stateRow) name v) ∧
    stateIsOpen.eval (stateContext "open") none = .ok (.boolean true) ∧
    stateIsOpen.eval (stateContext "open") none =
      stateIsOpen.eval (stateContext "done") (some stateRow) := by
  have hShares : (stateContext "open").Shares (stateContext "done") := ⟨rfl, rfl⟩
  have hSame : ∀ name ∈ stateIsOpen.vars, ∃ v, (stateContext "open").Resolves none name v ∧
      (stateContext "done").Resolves (some stateRow) name v := by
    intro name hName
    have hEither : name = "state" ∨ name = "wish" := by
      simpa [stateIsOpen, vars, varsOfItems] using hName
    rcases hEither with rfl | rfl
    · exact ⟨.string "open", .global nofun rfl, .field rfl⟩
    · exact ⟨.null, Context.resolves_iff.mpr rfl, Context.resolves_iff.mpr rfl⟩
  exact ⟨hShares, hSame, rfl, eval_eq_of_resolves stateIsOpen _ _ hShares none (some stateRow) hSame⟩

end Expr
end DocQuery
