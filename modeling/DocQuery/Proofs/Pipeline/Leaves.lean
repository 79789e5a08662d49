import Mathlib
import DocQuery.Proofs.Pipeline.Nesting
import DocQuery.Proofs.Pipeline.Regroup

/-!
The rows at the bottom of all groups. Filters and limits leave some of them out, sorting and grouping
move them, and undoing a grouping writes a key into one of their fields; no stage doubles one, as
long as every flattening undoes the grouping at hand.
-/

namespace DocQuery

section Drawn

variable {α : Type} {R : α → α → Prop}

/-- The things of the first collection stand for different things of the second one. -/
def Drawn (R : α → α → Prop) (drawn source : Multiset α) : Prop :=
  ∃ kept ≤ source, Multiset.Rel R drawn kept

/-- A part of a collection is drawn from it. -/
theorem Drawn.of_le [Std.Refl R] {drawn source : Multiset α} (h : drawn ≤ source) :
    Drawn R drawn source :=
  ⟨drawn, h, Multiset.rel_refl_of_refl_on fun x _ => Std.Refl.refl x⟩

/-- What is drawn from what is drawn is drawn. -/
theorem Drawn.trans [IsTrans α R] {xs ys zs : Multiset α} (hFirst : Drawn R xs ys)
    (hSecond : Drawn R ys zs) : Drawn R xs zs := by
  obtain ⟨middle, hMiddle, hDrawn⟩ := hFirst
  obtain ⟨kept, hKept, hSource⟩ := hSecond
  -- What the middle things stand for is a part of what all things between stand for.
  obtain ⟨others, rfl⟩ := Multiset.le_iff_exists_add.mp hMiddle
  obtain ⟨reached, rest, hReached, _, rfl⟩ := Multiset.rel_add_left.mp hSource
  exact ⟨reached, (Multiset.le_add_right reached rest).trans hKept, hDrawn.trans R hReached⟩

/-- If nothing is left out, everything is there. -/
theorem Drawn.rel_of_card_eq {drawn source : Multiset α} (h : Drawn R drawn source)
    (hCard : drawn.card = source.card) : Multiset.Rel R drawn source := by
  obtain ⟨kept, hKept, hRel⟩ := h
  have hAll : kept = source :=
    Multiset.eq_of_le_of_card_le hKept (by rw [← hCard, Multiset.card_eq_card_of_rel hRel])
  rwa [← hAll]

theorem rel_of_forall₂ {xs ys : List α} (h : List.Forall₂ R xs ys) :
    Multiset.Rel R (xs : Multiset α) (ys : Multiset α) := by
  induction h with
  | nil => exact .zero
  | cons hHead _ ih => exact .cons hHead ih

end Drawn

namespace Row

mutual

/-- The rows at the bottom of a row: the row itself when it has no members, else those at the bottom
of its members. -/
def leaves : Row → List Row
  | ⟨id, fields, members⟩ =>
    if members.isEmpty then [⟨id, fields, members⟩] else leavesOf members

/-- The rows at the bottom of rows, in order. -/
def leavesOf : List Row → List Row
  | [] => []
  | row :: rest => row.leaves ++ leavesOf rest

end

theorem leavesOf_eq_flatMap (rows : List Row) : leavesOf rows = rows.flatMap leaves := by
  induction rows with
  | nil => rfl
  | cons row rest ih => rw [leavesOf, ih, List.flatMap_cons]

/-- A row that is no group is its own only leaf. -/
theorem leaves_of_members_nil {row : Row} (h : row.members = []) : row.leaves = [row] := by
  obtain ⟨id, fields, members⟩ := row
  cases h
  rfl

/-- The leaves of a group are those of its members. -/
theorem leaves_of_members_ne_nil {row : Row} (h : row.members ≠ []) :
    row.leaves = leavesOf row.members := by
  obtain ⟨id, fields, members⟩ := row
  rw [leaves, if_neg (by simpa using h)]

theorem leavesOf_sublist {xs ys : List Row} (h : xs.Sublist ys) :
    (leavesOf xs).Sublist (leavesOf ys) := by
  simp only [leavesOf_eq_flatMap]
  exact h.flatMap leaves

theorem leavesOf_perm {xs ys : List Row} (h : xs.Perm ys) :
    (leavesOf xs).Perm (leavesOf ys) := by
  simp only [leavesOf_eq_flatMap]
  exact h.flatMap_right leaves

/-- The rows at the bottom of rows without members are these rows. -/
theorem leavesOf_of_members_nil {rows : List Row} (h : ∀ row ∈ rows, row.members = []) :
    leavesOf rows = rows := by
  induction rows with
  | nil => rfl
  | cons row rest ih =>
      obtain ⟨hRow, hRest⟩ := List.forall_mem_cons.mp h
      rw [leavesOf, leaves_of_members_nil hRow, ih hRest, List.singleton_append]

/-- A row as it was before some of its fields were set. -/
structure KeptBut (names : List String) (row source : Row) : Prop where
  id : row.id = source.id
  members : row.members = source.members
  others : ∀ field, field ∉ names →
    Keyed.get? row.fields field = Keyed.get? source.fields field

instance (names : List String) : Std.Refl (KeptBut names) where
  refl _ := ⟨rfl, rfl, fun _ _ => rfl⟩

instance (names : List String) : IsTrans Row (KeptBut names) where
  trans _ _ _ hFirst hSecond :=
    ⟨hFirst.id.trans hSecond.id, hFirst.members.trans hSecond.members, fun field hField =>
      (hFirst.others field hField).trans (hSecond.others field hField)⟩

/-- Setting one of the fields keeps a row but for that field. -/
theorem keptBut_set {names : List String} {name : String} (hName : name ∈ names) (row : Row)
    (v : Value) : KeptBut names (row.set name v) row where
  id := rfl
  members := rfl
  others _ hField := Keyed.get?_set_of_ne row.fields v fun hEq => hField (hEq ▸ hName)

/-- Setting a field of a row is seen at the bottom only when the row is there itself. -/
theorem leaves_set_kept {names : List String} {name : String} (hName : name ∈ names) (row : Row)
    (v : Value) : List.Forall₂ (KeptBut names) (row.set name v).leaves row.leaves := by
  by_cases hMembers : row.members = []
  · rw [leaves_of_members_nil hMembers,
      leaves_of_members_nil (show (row.set name v).members = [] from hMembers)]
    exact .cons (keptBut_set hName row v) .nil
  · rw [leaves_of_members_ne_nil hMembers,
      leaves_of_members_ne_nil (show (row.set name v).members ≠ [] from hMembers)]
    exact List.forall₂_same.mpr fun leaf _ => Std.Refl.refl leaf

end Row

namespace Stage

variable {c : Context}

/-- Only rows that were there have values, in the same order. -/
theorem evaluate_rows_sublist {α : Type} (f : Row → Outcome α) (rows : List Row) :
    ((evaluate f rows).rows.map Prod.snd).Sublist rows := by
  induction rows with
  | nil => exact .slnil
  | cons row rest ih =>
      simp only [evaluate, List.filterMap_cons] at ih ⊢
      cases f row with
      | error e => exact ih.cons row
      | ok v => exact ih.cons_cons row

/-- Without errors every row is there. -/
theorem evaluate_rows_of_no_errors {α : Type} {f : Row → Outcome α} {rows : List Row}
    (h : (evaluate f rows).errors = []) : (evaluate f rows).rows.map Prod.snd = rows := by
  have hAll : ∀ row ∈ rows, ∃ v, f row = .ok v := by
    intro row hRow
    obtain ⟨index, hIndex⟩ := List.mem_iff_getElem?.mp hRow
    have hNone := List.filterMap_eq_nil_iff.mp h (row, index)
      (List.mk_mem_zipIdx_iff_getElem?.mpr hIndex)
    cases hValue : f row with
    | ok v => exact ⟨v, rfl⟩
    | error e => simp [hValue] at hNone
  clear h
  induction rows with
  | nil => rfl
  | cons row rest ih =>
      obtain ⟨⟨v, hValue⟩, hRest⟩ := List.forall_mem_cons.mp hAll
      have hTail := ih hRest
      simp only [evaluate, List.filterMap_cons, hValue, List.map_cons] at hTail ⊢
      rw [hTail]

theorem filter_rows_sublist (clause : Expr) (rows : List Row) :
    (filter c clause rows).rows.Sublist rows :=
  (List.filter_sublist.map Prod.snd).trans (evaluate_rows_sublist _ rows)

/-- Sorting rearranges the rows that have values. -/
theorem sort_rows_perm (fields : List SortField) (rows : List Row) :
    (sort c fields rows).rows.Perm ((evaluate (keysOf c fields) rows).rows.map Prod.snd) :=
  (List.mergeSort_perm _ _).map Prod.snd

/-- Grouping moves the rows at the bottom, of those rows that have a key. -/
theorem leavesOf_group_perm (key : NamedExpr) (rows : List Row) :
    (Row.leavesOf (group c key rows).rows).Perm
      (Row.leavesOf ((evaluate (valueOf c key.expr) rows).rows.map Prod.snd)) := by
  have hMembers : Row.leavesOf (group c key rows).rows =
      Row.leavesOf ((Sequence.groupBy c.compare
        (evaluate (valueOf c key.expr) rows).rows).flatMap Group.members) := by
    simp only [Row.leavesOf_eq_flatMap, group, andThen, List.flatMap_map, List.flatMap_assoc]
    refine List.flatMap_congr fun g hGroup => ?_
    rw [Row.leaves_of_members_ne_nil (show (groupRow key.name g).members ≠ [] from
      Sequence.groupBy_members_ne_nil _ g hGroup), Row.leavesOf_eq_flatMap]
    rfl
  rw [hMembers, Sequence.groupBy_members]
  exact Row.leavesOf_perm ((List.mergeSort_perm _ _).map Prod.snd)

/-- Undoing a grouping changes one field of the rows at the bottom, and only of rows that were
grouped themselves. -/
theorem leavesOf_ungroup_kept {names : List String} {name : String} (hName : name ∈ names)
    {rows : List Row} (hGroups : ∀ row ∈ rows, row.members ≠ []) :
    List.Forall₂ (Row.KeptBut names) (Row.leavesOf (ungroup name rows)) (Row.leavesOf rows) := by
  induction rows with
  | nil => exact .nil
  | cons g rest ih =>
      obtain ⟨hGroup, hRest⟩ := List.forall_mem_cons.mp hGroups
      have hMembers (members : List Row) : List.Forall₂ (Row.KeptBut names)
          (Row.leavesOf (members.map fun member => member.set name g.id))
          (Row.leavesOf members) := by
        induction members with
        | nil => exact .nil
        | cons member others ihMembers =>
            exact List.rel_append (Row.leaves_set_kept hName member g.id) ihMembers
      rw [ungroup, List.flatMap_cons, Row.leavesOf_eq_flatMap, List.flatMap_append,
        ← Row.leavesOf_eq_flatMap, ← Row.leavesOf_eq_flatMap, Row.leavesOf,
        Row.leaves_of_members_ne_nil hGroup]
      exact List.rel_append (hMembers g.members) (ih hRest)

end Stage

/-- Every flattening undoes the grouping at hand, when identifiers have the given meaning in front of
the operations. -/
def Operation.FlattensUndo : IdMeaning → List Operation → Prop
  | _, [] => True
  | .group name on, .flatten target :: rest => target.name = name ∧ FlattensUndo on rest
  | .path, .flatten _ :: _ => False
  | meaning, .group key :: rest => FlattensUndo (.group key.name meaning) rest
  | meaning, _ :: rest => FlattensUndo meaning rest

def Operation.undoneNames (operations : List Operation) : List String :=
  operations.filterMap fun
    | .flatten target => some target.name
    | _ => none

/-- An operation that only moves rows: it sorts them, groups them or undoes a grouping. -/
def Operation.rearranges : Operation → Bool
  | .sort _ | .group _ | .flatten _ => true
  | _ => false

namespace Pipeline

variable {c : Context} {p q : Pipeline}

/-- What an operation does to the rows at the bottom. -/
structure Preserves (names : List String) (operation : Operation) (before : List Row)
    (s : Stage Row) : Prop where
  drawn : Drawn (Row.KeptBut names) (Row.leavesOf s.rows : Multiset Row)
    (Row.leavesOf before : Multiset Row)
  whole : operation.rearranges = true → s.errors = [] →
    (Row.leavesOf s.rows).length = (Row.leavesOf before).length

/-- Leaving out rows draws from the rows at the bottom. -/
theorem preserves_of_sublist {names : List String} {operation : Operation} {before : List Row}
    {s : Stage Row} (hRows : s.rows.Sublist before) (hOther : operation.rearranges = false) :
    Preserves names operation before s where
  drawn := .of_le (Row.leavesOf_sublist hRows).subperm
  whole h := by rw [hOther] at h; cases h

/-- Rows that were moved after some were left out with an error. -/
theorem preserves_of_perm {α : Type} {names : List String} {operation : Operation}
    {before : List Row} {s : Stage Row} (f : Row → Outcome α)
    (hRows : (Row.leavesOf s.rows).Perm
      (Row.leavesOf ((Stage.evaluate f before).rows.map Prod.snd)))
    (hErrors : s.errors = (Stage.evaluate f before).errors) :
    Preserves names operation before s where
  drawn := .of_le (hRows.subperm.trans
    (Row.leavesOf_sublist (Stage.evaluate_rows_sublist f before)).subperm)
  whole _ hNone := by
    rw [hRows.length_eq, Stage.evaluate_rows_of_no_errors (hErrors.symm.trans hNone)]

/-- No attempt makes up rows at the bottom, and what is left to do still undoes groupings only. -/
theorem attempt_preserves {operation : Operation} {rest : List Operation} {meaning : IdMeaning}
    {s : Stage Row} {names : List String} (hNested : p.Nested)
    (hUndo : Operation.FlattensUndo p.meaning (operation :: rest))
    (hNames : ∀ name ∈ Operation.undoneNames [operation], name ∈ names)
    (hAttempt : p.attempt c operation = .ok (meaning, s)) :
    Preserves names operation p.rows s ∧ Operation.FlattensUndo meaning rest := by
  cases operation with
  | filter clause =>
      cases hAttempt
      exact ⟨preserves_of_sublist (Stage.filter_rows_sublist _ _) rfl, hUndo⟩
  | having clause =>
      cases hAttempt
      exact ⟨preserves_of_sublist (Stage.filter_rows_sublist _ _) rfl, hUndo⟩
  | sort fields =>
      cases hAttempt
      exact ⟨preserves_of_perm _ (Row.leavesOf_perm (Stage.sort_rows_perm _ _)) rfl, hUndo⟩
  | limit amount =>
      cases hLimit : Stage.limitCount c amount with
      | error e =>
          rw [attempt, hLimit] at hAttempt
          cases hAttempt
      | ok count =>
          rw [attempt, hLimit] at hAttempt
          cases hAttempt
          exact ⟨preserves_of_sublist (List.take_sublist count p.rows) rfl, hUndo⟩
  | group key =>
      cases hAttempt
      exact ⟨preserves_of_perm _ (Stage.leavesOf_group_perm key p.rows) rfl, hUndo⟩
  | flatten target =>
      have hFlatten : p.flatten c target = (meaning, s) := Except.ok.inj hAttempt
      rcases flatten_cases c p target with ⟨on, hMeaning, hEq⟩ | ⟨hOther, _⟩
      · cases hEq.symm.trans hFlatten
        rw [hMeaning] at hUndo
        have hGroups : ∀ row ∈ p.rows, row.members ≠ [] := by
          intro row hRow
          have hLayer := hNested row hRow
          rw [hMeaning] at hLayer
          exact hLayer.1
        have hKept := Stage.leavesOf_ungroup_kept (hNames target.name (by simp [Operation.undoneNames]))
          hGroups
        exact ⟨⟨⟨_, le_refl _, rel_of_forall₂ hKept⟩, fun _ _ => hKept.length_eq⟩, hUndo.2⟩
      · cases hMeaning : p.meaning with
        | path =>
            rw [hMeaning] at hUndo
            exact hUndo.elim
        | group name on =>
            rw [hMeaning] at hUndo
            exact absurd (hUndo.1 ▸ hMeaning) (hOther on)

/-- What stages did is recorded behind what the stages before them did. -/
theorem diagnostics_prefix_of_runFrom {operations : List Operation}
    (hRun : runFrom c p operations = .ok q) : p.diagnostics <+: q.diagnostics := by
  refine runFrom_invariant (I := fun r => p.diagnostics <+: r.diagnostics) ?_
    (List.prefix_refl _) hRun
  intro r operation next hKept hStep
  obtain ⟨meaning, s, _, _, rfl⟩ := step_eq_ok_iff.mp hStep
  exact hKept.trans (List.prefix_append _ _)

/-- What every stage does to the rows at the bottom, a run does. -/
theorem runFrom_drawn {operations : List Operation} {names : List String} (hNested : p.Nested)
    (hUndo : Operation.FlattensUndo p.meaning operations)
    (hNames : ∀ name ∈ Operation.undoneNames operations, name ∈ names)
    (hRun : runFrom c p operations = .ok q) :
    Drawn (Row.KeptBut names) (Row.leavesOf q.rows : Multiset Row)
      (Row.leavesOf p.rows : Multiset Row) ∧
    ((∀ operation ∈ operations, operation.rearranges = true) →
      (∀ stage ∈ q.diagnostics, stage.errors = []) →
      (Row.leavesOf q.rows).length = (Row.leavesOf p.rows).length) := by
  induction operations generalizing p with
  | nil =>
      cases hRun
      exact ⟨.of_le (le_refl _), fun _ _ => rfl⟩
  | cons operation rest ih =>
      obtain ⟨middle, hStep, hRest⟩ := runFrom_cons_eq_ok_iff.mp hRun
      obtain ⟨meaning, s, hAttempt, _, rfl⟩ := step_eq_ok_iff.mp hStep
      have hSplit : Operation.undoneNames (operation :: rest) =
          Operation.undoneNames [operation] ++ Operation.undoneNames rest :=
        @List.filterMap_append _ _ [operation] rest _
      simp only [hSplit, List.mem_append, or_imp, forall_and] at hNames
      obtain ⟨hFirst, hLater⟩ := attempt_preserves hNested hUndo hNames.1 hAttempt
      obtain ⟨hDrawn, hWhole⟩ := ih (step_nested hNested hStep) hLater hNames.2 hRest
      refine ⟨hDrawn.trans hFirst.drawn, fun hMoves hNone => ?_⟩
      obtain ⟨hMove, hMoves⟩ := List.forall_mem_cons.mp hMoves
      have hStage : s.errors = [] :=
        hNone _ ((diagnostics_prefix_of_runFrom hRest).subset
          (List.mem_append_right p.diagnostics (List.mem_singleton_self _)))
      exact (hWhole hMoves hNone).trans (hFirst.whole hMove hStage)

/-- When every flattening undoes the grouping at hand, the rows at the bottom are different rows of
the input, as they were but for the fields of undone groupings. Without filters, limits and row errors
they are all of them. -/
theorem run_leaves_drawn (c : Context) (entries : List (Value × Object))
    (operations : List Operation) (p : Pipeline)
    (hUndo : Operation.FlattensUndo .path operations)
    (hRun : run c (entries.map fun (id, fields) => Row.single id fields) operations = .ok p) :
    Drawn (Row.KeptBut (Operation.undoneNames operations)) (Row.leavesOf p.rows : Multiset Row)
      (entries.map fun (id, fields) => Row.single id fields : List Row) ∧
    ((∀ operation ∈ operations, operation.rearranges = true) →
      (∀ stage ∈ p.diagnostics, stage.errors = []) →
      Multiset.Rel (Row.KeptBut (Operation.undoneNames operations))
        (Row.leavesOf p.rows : Multiset Row)
        (entries.map fun (id, fields) => Row.single id fields : List Row)) := by
  have hSingle : ∀ row ∈ entries.map fun (id, fields) => Row.single id fields,
      row.members = [] := by
    intro row hRow
    obtain ⟨entry, _, rfl⟩ := List.mem_map.mp hRow
    rfl
  have hStart : Nested { rows := entries.map fun (id, fields) => Row.single id fields } := hSingle
  obtain ⟨hDrawn, hWhole⟩ := runFrom_drawn hStart hUndo (fun _ hName => hName) hRun
  rw [Row.leavesOf_of_members_nil hSingle] at hDrawn hWhole
  exact ⟨hDrawn, fun hMoves hNone => hDrawn.rel_of_card_eq (hWhole hMoves hNone)⟩

/-- Two groupings, one inside the other, of which the inner one is undone and made again. -/
def undoings : List Operation :=
  [.group ⟨"x", .name "x"⟩, .group ⟨"y", .literal .null⟩, .flatten ⟨"y", .name "y"⟩,
    .sort [⟨.name "key", .descending⟩], .flatten ⟨"x", .name "x"⟩, .group ⟨"z", .name "x"⟩]

/-- All three rows are still there below two groups, and none of them twice. -/
theorem run_leaves_drawn_undoings :
    Operation.FlattensUndo .path undoings ∧
    ∃ p, run .bare (sharedEntries.map fun (id, fields) => Row.single id fields) undoings = .ok p ∧
      p.rows.length = 2 ∧ (Row.leavesOf p.rows).length = 3 ∧
      Drawn (Row.KeptBut ["y", "x"]) (Row.leavesOf p.rows : Multiset Row)
        (sharedEntries.map fun (id, fields) => Row.single id fields : List Row) ∧
      Multiset.Rel (Row.KeptBut ["y", "x"]) (Row.leavesOf p.rows : Multiset Row)
        (sharedEntries.map fun (id, fields) => Row.single id fields : List Row) := by
  have hUndo : Operation.FlattensUndo .path undoings := ⟨rfl, rfl, trivial⟩
  obtain ⟨p, hRun, hLength, hLeaves, hNone⟩ : ∃ p,
      run .bare (sharedEntries.map fun (id, fields) => Row.single id fields) undoings = .ok p ∧
      p.rows.length = 2 ∧ (Row.leavesOf p.rows).length = 3 ∧
      p.diagnostics.all (fun stage => stage.errors.isEmpty) = true :=
    ⟨_, by cbv, by cbv, by cbv, by cbv⟩
  have hErrors : ∀ stage ∈ p.diagnostics, stage.errors = [] := by
    intro stage hStage
    simpa using List.all_eq_true.mp hNone stage hStage
  obtain ⟨hDrawn, hWhole⟩ := run_leaves_drawn .bare sharedEntries undoings p hUndo hRun
  exact ⟨hUndo, p, hRun, hLength, hLeaves, hDrawn, hWhole (by simp [undoings, Operation.rearranges])
    hErrors⟩

end Pipeline
end DocQuery
