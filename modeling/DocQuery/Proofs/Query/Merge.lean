import DocQuery.Query.Read
import Mathlib.Data.List.SplitBy

/-!
What the clauses of a query come to. The loop joins an operation to the last one where it can; seen as a
whole, each longest run of neighbours of one kind becomes one operation, and the sources become one
alternative.
-/

namespace DocQuery

namespace Source

/-- The alternative of some sources, nested to the left; every document if there is none. -/
def anyOf : List Source → Source
  | [] => everything
  | first :: others => others.foldl or first

theorem foldl_or_ne_everything {first : Source} (hFirst : first ≠ everything) (others : List Source) :
    others.foldl or first ≠ everything := by
  induction others generalizing first with
  | nil => exact hFirst
  | cons next others ih => exact ih nofun

/-- Behind what is written, a further source is an alternative. -/
theorem orElse_of_ne_everything {written : Source} (hWritten : written ≠ everything) (other : Source) :
    written.orElse other = or written other := by
  cases written with
  | everything => exact absurd rfl hWritten
  | _ => rfl

/-- Sources that are written one after the other are alternatives. -/
theorem foldl_orElse {sources : List Source} (h : ∀ s ∈ sources, s ≠ everything) :
    sources.foldl orElse everything = anyOf sources := by
  have hMore {first : Source} (hFirst : first ≠ everything) (others : List Source) :
      others.foldl orElse first = others.foldl or first := by
    induction others generalizing first with
    | nil => rfl
    | cons next others ih =>
        rw [List.foldl_cons, List.foldl_cons, orElse_of_ne_everything hFirst]
        exact ih nofun
  cases sources with
  | nil => rfl
  | cons first others => exact hMore (h first (List.mem_cons_self ..)) others

end Source

namespace Operation

/-- Whether an operation is joined to one directly before it. -/
def sameKind : Operation → Operation → Bool
  | filter _, filter _ | having _, having _ | sort _, sort _ => true
  | _, _ => false

def condition? : Operation → Option Expr
  | filter condition | having condition => some condition
  | _ => none

def sortFields : Operation → List SortField
  | sort fields => fields
  | _ => []

/-- A run of operations of one kind as one operation: conditions are joined by `and`, nested to the left,
and sort fields stand behind one another. All other operations stay as they are. -/
def mergeRun : List Operation → List Operation
  | filter first :: others => [filter ((others.filterMap condition?).foldl (.binary .and) first)]
  | having first :: others => [having ((others.filterMap condition?).foldl (.binary .and) first)]
  | sort fields :: others => [sort (fields ++ others.flatMap sortFields)]
  | others => others

/-- The operations with each longest run of one kind merged. -/
def merged (operations : List Operation) : List Operation :=
  (operations.splitBy sameKind).flatMap mergeRun

theorem join?_isSome (a b : Operation) : (a.join? b).isSome = sameKind a b := by
  cases a <;> cases b <;> rfl

theorem join?_eq_none {a b : Operation} (h : sameKind a b = false) : a.join? b = none := by
  rwa [← join?_isSome, Option.isSome_eq_false_iff, Option.isNone_iff_eq_none] at h

/-- Operations of one kind are followed alike. -/
theorem sameKind_congr {a b : Operation} (h : sameKind a b = true) (next : Operation) :
    sameKind a next = sameKind b next := by
  cases a <;> cases b <;> cases h <;> cases next <;> rfl

/-- An operation that can be joined to the last one is joined. -/
theorem append_of_join? {last new joined : Operation} (hJoin : last.join? new = some joined)
    (before : List Operation) : append (before ++ [last]) new = before ++ [joined] := by
  induction before with
  | nil => simp [append, hJoin]
  | cons first before ih =>
      cases before with
      | nil => simp [append, hJoin]
      | cons second before => exact congrArg (first :: ·) ih

/-- An operation of another kind stands behind the last one. -/
theorem append_of_not_sameKind {before : List Operation} {new : Operation}
    (hLast : ∀ last ∈ before.getLast?, sameKind last new = false) :
    append before new = before ++ [new] := by
  induction before with
  | nil => rfl
  | cons first before ih =>
      cases before with
      | nil =>
          have hJoin : first.join? new = none := join?_eq_none (hLast first rfl)
          simp [append, hJoin]
      | cons second before => exact congrArg (first :: ·) (ih hLast)

/-- Operations of the kind of the last one are all joined to it. -/
theorem foldl_append_run {first : Operation} {others : List Operation}
    (hKind : ∀ op ∈ others, sameKind first op = true) (before : List Operation) :
    others.foldl append (before ++ [first]) = before ++ mergeRun (first :: others) := by
  -- What two operations are joined to takes the place of the first one, of whose kind it is.
  induction others generalizing first with
  | nil => cases first <;> simp [mergeRun]
  | cons next others ih =>
      obtain ⟨hNext, hOthers⟩ := List.forall_mem_cons.mp hKind
      obtain ⟨joined, hJoin⟩ := Option.isSome_iff_exists.mp ((join?_isSome first next).trans hNext)
      have hJoined : sameKind first joined = true ∧
          mergeRun (joined :: others) = mergeRun (first :: next :: others) := by
        cases first <;> cases next <;> cases hNext <;> cases hJoin
        all_goals simp [sameKind, mergeRun, condition?, sortFields]
      rw [List.foldl_cons, append_of_join? hJoin, ih, hJoined.2]
      intro op hMem
      rw [← sameKind_congr hJoined.1]
      exact hOthers op hMem

/-- A run of one kind becomes one operation of this kind. -/
theorem mergeRun_eq_singleton {first : Operation} {others : List Operation}
    (hKind : ∀ op ∈ others, sameKind first op = true) :
    ∃ joined, mergeRun (first :: others) = [joined] ∧
      ∀ next, sameKind joined next = sameKind first next := by
  cases first with
  | filter e => exact ⟨_, rfl, fun next => by cases next <;> rfl⟩
  | having e => exact ⟨_, rfl, fun next => by cases next <;> rfl⟩
  | sort fields => exact ⟨_, rfl, fun next => by cases next <;> rfl⟩
  | limit _ | flatten _ | group _ =>
      cases others with
      | nil => exact ⟨_, rfl, fun _ => rfl⟩
      | cons op others => cases hKind op (List.mem_cons_self ..)

/-- In a run of one kind all are of the kind of the first. -/
theorem sameKind_of_isChain {first : Operation} {others : List Operation}
    (h : (first :: others).IsChain fun a b => sameKind a b = true) :
    ∀ op ∈ others, sameKind first op = true := by
  induction others generalizing first with
  | nil => exact List.forall_mem_nil _
  | cons next others ih =>
      obtain ⟨hNext, hOthers⟩ := List.isChain_cons_cons.mp h
      refine List.forall_mem_cons.mpr ⟨hNext, fun op hMem => ?_⟩
      rw [sameKind_congr hNext]
      exact ih hOthers op hMem

/-- What follows a run is not of its kind. -/
theorem sameKind_next {first next : Operation} {others : List Operation} {runs : List (List Operation)}
    (hKind : ∀ op ∈ others, sameKind first op = true) (hNonempty : [] ∉ runs)
    (hApart : ((first :: others) :: runs).IsChain fun a b =>
      ∃ ha hb, sameKind (a.getLast ha) (b.head hb) = false)
    (hNext : next ∈ runs.flatten.head?) : sameKind first next = false := by
  match runs with
  | [] => cases hNext
  | [] :: runs => exact absurd (List.mem_cons_self ..) hNonempty
  | (second :: more) :: runs =>
      cases hNext
      obtain ⟨hSome, hNextSome, hLast⟩ := (List.isChain_cons_cons.mp hApart).1
      rcases List.mem_cons.mp (List.getLast_mem hSome) with hFirst | hMem
      · rwa [hFirst] at hLast
      · rwa [sameKind_congr (hKind _ hMem)]

/-- Runs of one kind each, of which no neighbours go together, become one operation each. -/
theorem foldl_append_runs {runs : List (List Operation)} (hNonempty : [] ∉ runs)
    (hKind : ∀ run ∈ runs, run.IsChain fun a b => sameKind a b = true)
    (hApart : runs.IsChain fun a b => ∃ ha hb, sameKind (a.getLast ha) (b.head hb) = false)
    {before : List Operation}
    (hBefore : ∀ last ∈ before.getLast?, ∀ first ∈ runs.flatten.head?, sameKind last first = false) :
    runs.flatten.foldl append before = before ++ runs.flatMap mergeRun := by
  induction runs generalizing before with
  | nil => simp
  | cons run runs ih =>
      obtain ⟨hRun, hRuns⟩ := List.forall_mem_cons.mp hKind
      cases run with
      | nil => exact absurd (List.mem_cons_self ..) hNonempty
      | cons first others =>
          have hOthers := sameKind_of_isChain hRun
          obtain ⟨joined, hMerge, hJoined⟩ := mergeRun_eq_singleton hOthers
          have hFirst : append before first = before ++ [first] :=
            append_of_not_sameKind fun last hLast => hBefore last hLast first rfl
          rw [List.flatten_cons, List.foldl_append, List.foldl_cons, hFirst, foldl_append_run hOthers,
            List.flatMap_cons, ← List.append_assoc]
          have hNonempty' : [] ∉ runs := fun hMem => hNonempty (List.mem_cons_of_mem _ hMem)
          refine ih hNonempty' hRuns hApart.tail ?_
          rw [hMerge, List.getLast?_concat]
          rintro _ ⟨⟩ next hNext
          rw [hJoined]
          exact sameKind_next hOthers hNonempty' hApart hNext

/-- The loop over the operations merges their longest runs. -/
theorem foldl_append (operations : List Operation) : operations.foldl append [] = merged operations := by
  have hEmpty : ∀ last ∈ ([] : List Operation).getLast?,
      ∀ first ∈ (operations.splitBy sameKind).flatten.head?, sameKind last first = false := by simp
  have hRuns := foldl_append_runs (List.nil_notMem_splitBy sameKind operations)
    (fun _ => List.isChain_of_mem_splitBy) (List.isChain_getLast_head_splitBy sameKind operations) hEmpty
  rwa [List.flatten_splitBy] at hRuns

theorem eq_nil_of_merged {operations : List Operation} (h : merged operations = []) : operations = [] := by
  rw [← List.flatten_splitBy sameKind operations, List.flatten_eq_nil_iff]
  intro run hRun
  have hNone : mergeRun run = [] := List.flatMap_eq_nil_iff.mp h run hRun
  cases run with
  | nil => rfl
  | cons first others => cases first <;> cases hNone

end Operation

namespace Clause

def source? : Clause → Option Source
  | source s => some s
  | operation _ => none

def operation? : Clause → Option Operation
  | source _ => none
  | operation op => some op

end Clause

namespace Query

/-- What a header and clauses come to, seen as a whole. -/
def ofClauses (header : Header) (clauses : List Clause) : Query :=
  ⟨header, .anyOf (clauses.filterMap Clause.source?),
    Operation.merged (clauses.filterMap Clause.operation?)⟩

/-- Clauses are added to a query by their sources and their operations. -/
theorem foldl_add (q : Query) (clauses : List Clause) : clauses.foldl add q =
    ⟨q.header, (clauses.filterMap Clause.source?).foldl Source.orElse q.source,
      (clauses.filterMap Clause.operation?).foldl Operation.append q.operations⟩ := by
  induction clauses generalizing q with
  | nil => rfl
  | cons clause clauses ih =>
      rw [List.foldl_cons, ih]
      cases clause <;> rfl

/-- The loop over the clauses takes them together as they are meant. -/
theorem foldl_add_eq_ofClauses {clauses : List Clause}
    (hSources : ∀ clause ∈ clauses, clause ≠ .source .everything) (header : Header) :
    clauses.foldl add ⟨header, .everything, []⟩ = ofClauses header clauses := by
  have hWritten : ∀ s ∈ clauses.filterMap Clause.source?, s ≠ .everything := by
    intro s hMem hEverything
    obtain ⟨clause, hClause, hSource⟩ := List.mem_filterMap.mp hMem
    cases clause with
    | source written =>
        cases hSource
        exact hSources _ hClause (congrArg Clause.source hEverything)
    | operation op => cases hSource
  rw [foldl_add, Source.foldl_orElse hWritten, Operation.foldl_append, ofClauses]

/-- Only a header without clauses comes to nothing but the header. -/
theorem eq_nil_of_ofClauses {header : Header} {clauses : List Clause}
    (hSources : ∀ clause ∈ clauses, clause ≠ .source .everything) {h : Header}
    (hNone : ofClauses header clauses = ⟨h, .everything, []⟩) : header = h ∧ clauses = [] := by
  obtain ⟨hHeader, hSource, hOperations⟩ := Query.mk.inj hNone
  refine ⟨hHeader, ?_⟩
  cases clauses with
  | nil => rfl
  | cons clause others =>
      cases clause with
      | source s =>
          have hFirst : s ≠ .everything := fun hEverything =>
            hSources _ (List.mem_cons_self ..) (congrArg Clause.source hEverything)
          exact absurd hSource (Source.foldl_or_ne_everything hFirst _)
      | operation op => cases Operation.eq_nil_of_merged hOperations

end Query

end DocQuery
