import Mathlib
import DocQuery.Engine
import DocQuery.Proofs.Pipeline.Run
import DocQuery.Proofs.Pipeline.Stage

/-!
Groups are nested as deeply as the meaning of identifiers says. Every stage keeps the two in step:
grouping adds a layer to both, undoing it takes one off both, and all other stages only choose, order
or copy whole rows. Trees of tasks inherit this, so that none of their groups is empty.
-/

namespace DocQuery

/-- The number of groupings that have not been undone. -/
def IdMeaning.depth : IdMeaning → Nat
  | path => 0
  | group _ on => on.depth + 1

namespace Row

/-- The members of a row form a tree in which every way to the bottom has the given length, and every
row above the bottom has members. -/
def NestedTo : Nat → Row → Prop
  | 0, row => row.members = []
  | depth + 1, row => row.members ≠ [] ∧ ∀ member ∈ row.members, NestedTo depth member

/-- Setting a field leaves a row nested as deeply as it was. -/
theorem nestedTo_set {depth : Nat} {row : Row} (name : String) (v : Value)
    (h : row.NestedTo depth) : (row.set name v).NestedTo depth := by
  cases depth with
  | zero => exact h
  | succ depth => exact h

/-- The rows below as many layers of groups as identifiers mean. -/
def bottoms : IdMeaning → List Row → List Row
  | .path, rows => rows
  | .group _ on, rows => rows.flatMap fun row => bottoms on row.members

/-- At the bottom of the nesting no row is a group. -/
theorem members_of_mem_bottoms {meaning : IdMeaning} {rows : List Row}
    (hNested : ∀ row ∈ rows, row.NestedTo meaning.depth) :
    ∀ row ∈ bottoms meaning rows, row.members = [] := by
  induction meaning generalizing rows with
  | path => exact hNested
  | group name on ih =>
      intro row hRow
      obtain ⟨above, hAbove, hBelow⟩ := List.mem_flatMap.mp hRow
      exact ih (hNested above hAbove).2 row hBelow

end Row

namespace Pipeline

variable {c : Context} {p q : Pipeline}

/-- All rows are nested as deeply as their identifiers mean. -/
def Nested (p : Pipeline) : Prop := ∀ row ∈ p.rows, row.NestedTo p.meaning.depth

/-- An attempt leaves the rows nested as deeply as their identifiers mean. -/
theorem attempt_nested {operation : Operation} {meaning : IdMeaning} {s : Stage Row}
    (hNested : p.Nested) (hAttempt : p.attempt c operation = .ok (meaning, s)) :
    ∀ row ∈ s.rows, row.NestedTo meaning.depth := by
  intro row hRow
  cases operation with
  | filter clause =>
      cases hAttempt
      exact hNested row (Stage.mem_filter_rows hRow)
  | having clause =>
      cases hAttempt
      exact hNested row (Stage.mem_filter_rows hRow)
  | sort fields =>
      cases hAttempt
      exact hNested row (Stage.mem_sort_rows hRow)
  | limit amount =>
      cases hLimit : Stage.limitCount c amount with
      | error e =>
          rw [attempt, hLimit] at hAttempt
          cases hAttempt
      | ok count =>
          rw [attempt, hLimit] at hAttempt
          cases hAttempt
          exact hNested row (List.mem_of_mem_take hRow)
  | group key =>
      cases hAttempt
      obtain ⟨hMembers, hSource⟩ := Stage.mem_group_rows hRow
      exact ⟨hMembers, fun member hMember => hNested member (hSource member hMember)⟩
  | flatten target =>
      have hFlatten : p.flatten c target = (meaning, s) := Except.ok.inj hAttempt
      rcases flatten_cases c p target with ⟨on, hMeaning, hUndo⟩ | ⟨_, hSpread⟩
      · -- The layer that identifiers lose is the one that the rows lose.
        cases hUndo.symm.trans hFlatten
        obtain ⟨above, hAbove, member, hMember, rfl⟩ := Stage.mem_ungroup hRow
        have hLayer := hNested above hAbove
        rw [hMeaning] at hLayer
        exact Row.nestedTo_set _ _ (hLayer.2 member hMember)
      · cases hSpread.symm.trans hFlatten
        obtain ⟨source, hSource, v, rfl⟩ := Stage.mem_flatten_rows hRow
        exact Row.nestedTo_set _ _ (hNested source hSource)

/-- A step leaves the rows nested as deeply as their identifiers mean. -/
theorem step_nested {operation : Operation} (hNested : p.Nested)
    (hStep : p.step c operation = .ok q) : q.Nested := by
  obtain ⟨meaning, s, hAttempt, _, rfl⟩ := step_eq_ok_iff.mp hStep
  exact attempt_nested hNested hAttempt

/-- Behind every run the rows are nested as deeply as their identifiers mean. -/
theorem run_nested {rows : List Row} (hRows : ∀ row ∈ rows, row.members = [])
    {operations : List Operation} (hRun : run c rows operations = .ok p) : p.Nested := by
  have hStart : Nested { rows } := hRows
  exact runFrom_invariant (fun _ _ _ hNested hStep => step_nested hNested hStep) hStart hRun

end Pipeline

namespace TaskTree

def width : TaskTree → Nat
  | items tasks => tasks.length
  | groups gs => gs.length

/-- A tree has a layer of groups for each grouping and tasks only below, and no group is empty. -/
def FilledTo : IdMeaning → TaskTree → Prop
  | .path, items _ => True
  | .group _ on, groups gs => ∀ entry ∈ gs, 0 < entry.2.width ∧ FilledTo on entry.2
  | _, _ => False

mutual

def tasks : TaskTree → List Value
  | items tasks => tasks
  | groups gs => groupTasks gs

def groupTasks : List (Value × TaskTree) → List Value
  | [] => []
  | (_, tree) :: rest => tree.tasks ++ groupTasks rest

end

theorem groupTasks_eq_flatMap (gs : List (Value × TaskTree)) :
    groupTasks gs = gs.flatMap fun entry => entry.2.tasks := by
  induction gs with
  | nil => rfl
  | cons entry rest ih => rw [groupTasks, ih, List.flatMap_cons]

/-- How a row is shown as a task. -/
def shown (row : Row) : Value := .object (Keyed.remove row.fields "file")

/-- The tasks that are shown are those at the bottom of the rows. -/
theorem tasks_ofRows (meaning : IdMeaning) (rows : List Row) :
    (ofRows meaning rows).tasks = (Row.bottoms meaning rows).map shown := by
  induction meaning generalizing rows with
  | path => rfl
  | group name on ih =>
      rw [ofRows, tasks, groupTasks_eq_flatMap, List.flatMap_map, Row.bottoms, List.map_flatMap]
      congr 1
      funext row
      exact ih row.members

theorem width_ofRows (meaning : IdMeaning) (rows : List Row) :
    (ofRows meaning rows).width = rows.length := by
  cases meaning <;> simp [ofRows, width]

/-- A tree of tasks is filled as deeply as the identifiers of its rows mean. -/
theorem filledTo_ofRows {meaning : IdMeaning} {rows : List Row}
    (hNested : ∀ row ∈ rows, row.NestedTo meaning.depth) :
    (ofRows meaning rows).FilledTo meaning := by
  induction meaning generalizing rows with
  | path => trivial
  | group name on ih =>
      intro entry hEntry
      obtain ⟨row, hRow, rfl⟩ := List.mem_map.mp hEntry
      obtain ⟨hMembers, hBelow⟩ := hNested row hRow
      rw [width_ofRows]
      exact ⟨List.length_pos_iff.mpr hMembers, ih hBelow⟩

end TaskTree

namespace Pipeline

/-- Behind every stage the rows are nested as deeply as identifiers mean; a tree of tasks made of
them has no empty group, and shows as tasks only rows that are no groups. -/
theorem run_take_nested (c : Context) (entries : List (Value × Object))
    (operations : List Operation) (stages : Nat) (p : Pipeline)
    (hRun : run c (entries.map fun (id, fields) => Row.single id fields)
      (operations.take stages) = .ok p) :
    (∀ row ∈ p.rows, row.NestedTo p.meaning.depth) ∧
    (TaskTree.ofRows p.meaning p.rows).FilledTo p.meaning ∧
    (TaskTree.ofRows p.meaning p.rows).tasks =
      (Row.bottoms p.meaning p.rows).map TaskTree.shown ∧
    ∀ row ∈ Row.bottoms p.meaning p.rows, row.members = [] := by
  have hSingle : ∀ row ∈ entries.map fun (id, fields) => Row.single id fields,
      row.members = [] := by
    intro row hRow
    obtain ⟨entry, _, rfl⟩ := List.mem_map.mp hRow
    rfl
  have hNested := run_nested hSingle hRun
  exact ⟨hNested, TaskTree.filledTo_ofRows hNested, TaskTree.tasks_ofRows _ _,
    Row.members_of_mem_bottoms hNested⟩

/-- Three rows, of which the outer two share a key. -/
def sharedEntries : List (Value × Object) :=
  [(.boolean true, [("x", .null)]), (.null, [("x", .boolean true)]), (.boolean false, [("x", .null)])]

/-- Groups of groups, an ordinary flattening that copies their members, and the undoing of one
grouping. -/
def regroupings : List Operation :=
  [.group ⟨"x", .name "x"⟩, .group ⟨"y", .literal .null⟩, .flatten ⟨"rows", .name "rows"⟩,
    .flatten ⟨"y", .name "y"⟩]

/-- Before the undoing, two copies of the one outer group stand two layers deep. -/
theorem run_take_nested_spread :
    ∃ p, run .bare (sharedEntries.map fun (id, fields) => Row.single id fields)
        (regroupings.take 3) = .ok p ∧
      p.rows.length = 2 ∧ p.meaning.depth = 2 ∧
      (∀ row ∈ p.rows, row.NestedTo p.meaning.depth) ∧
      (TaskTree.ofRows p.meaning p.rows).FilledTo p.meaning ∧
      (TaskTree.ofRows p.meaning p.rows).tasks =
        (Row.bottoms p.meaning p.rows).map TaskTree.shown ∧
      ∀ row ∈ Row.bottoms p.meaning p.rows, row.members = [] := by
  obtain ⟨p, hRun, hLength, hDepth⟩ : ∃ p,
      run .bare (sharedEntries.map fun (id, fields) => Row.single id fields)
        (regroupings.take 3) = .ok p ∧
      p.rows.length = 2 ∧ p.meaning.depth = 2 := ⟨_, by cbv, by cbv, by cbv⟩
  exact ⟨p, hRun, hLength, hDepth, run_take_nested .bare sharedEntries regroupings 3 p hRun⟩

end Pipeline

namespace Engine

/-- No row of a task is a group. -/
theorem members_of_mem_taskRows {corpus : Corpus} {pages : List Row} :
    ∀ row ∈ taskRows corpus pages, row.members = [] := by
  intro row hRow
  obtain ⟨page, _, hTask⟩ := List.mem_flatMap.mp hRow
  split at hTask
  · obtain ⟨task, _, rfl⟩ := List.mem_map.mp hTask
    rfl
  · cases hTask

/-- The rows of a task query start as single rows, so its answers have no empty group. -/
theorem task_filledTo {e : Engine} {query : Query} {corpus : Corpus} {origin : Option String}
    {a : Answer} (h : e.task query corpus origin = .ok a) :
    ∃ tree, a.body = .task tree ∧ tree.FilledTo a.meaning := by
  unfold task at h
  split at h
  · cases hPages : corpus.rows query.source with
    | error fault =>
        rw [hPages] at h
        cases h
    | ok pages =>
        rw [hPages] at h
        cases hRun : Pipeline.run (e.context corpus origin) (taskRows corpus pages)
            query.operations with
        | error fault =>
            simp [bind, Except.bind, hRun] at h
        | ok p =>
            simp only [bind, Except.bind, hRun, pure, Except.pure, Except.ok.injEq] at h
            subst h
            have hNested := Pipeline.run_nested members_of_mem_taskRows hRun
            exact ⟨_, rfl, TaskTree.filledTo_ofRows hNested⟩
  · cases h

end Engine
end DocQuery
