import DocQuery.Pipeline.Stage
import DocQuery.Proofs.Eval.Comparison

/-!
The order that rows are sorted by. It asks only the operators `<` and `>`, one field after the other;
with the standard operators it is the lexicographic combination of the order of values, each field
in its direction, and so a total preorder of key vectors.
-/

namespace DocQuery

/-- The six comparison operators give a truth value for all operands, and all six read it off the
one order of values. -/
structure ComparisonsAgree (c : Context) : Prop where
  equal : ∀ a b, c.apply .equal a b = .ok (.boolean (decide (c.compare a b = .eq)))
  notEqual : ∀ a b, c.apply .notEqual a b = .ok (.boolean (decide (c.compare a b ≠ .eq)))
  less : ∀ a b, c.apply .less a b = .ok (.boolean (decide (c.compare a b = .lt)))
  greater : ∀ a b, c.apply .greater a b = .ok (.boolean (decide (c.compare a b = .gt)))
  atMost : ∀ a b, c.apply .atMost a b = .ok (.boolean (decide (c.compare a b ≠ .gt)))
  atLeast : ∀ a b, c.apply .atLeast a b = .ok (.boolean (decide (c.compare a b ≠ .lt)))

/-- Standard operators compare as values are compared. -/
theorem comparisonsAgree_of_standard {c : Context} (hStandard : c.operators = .standard) :
    ComparisonsAgree c := by
  constructor <;> intro a b
  all_goals
    rw [Context.apply_comparison hStandard rfl]
    cases c.compare a b <;> rfl

namespace Stage

/-- One key for each sort field. -/
abbrev KeyVector (fields : List SortField) := {keys : List Value // keys.length = fields.length}

/-- How two lists of keys are ordered in each position, every field in its direction. -/
def orderings (c : Context) (fields : List SortField) (as bs : List Value) : List Ordering :=
  (fields.zip (as.zip bs)).map fun (field, a, b) => directed field.direction (c.compare a b)

/-- The first position that tells two things apart decides. -/
def lexicographic (orders : List Ordering) : Ordering := (orders.find? (· ≠ .eq)).getD .eq

theorem lexicographic_cons (o : Ordering) (orders : List Ordering) :
    lexicographic (o :: orders) = o.then (lexicographic orders) := by
  cases o <;> simp [lexicographic]

/-- Standard operators order values as values are ordered. -/
theorem order_eq_compare {c : Context} (hStandard : c.operators = .standard) (a b : Value) :
    order c a b = c.compare a b := by
  have hAgree := comparisonsAgree_of_standard hStandard
  simp only [order, holds, hAgree.less, hAgree.greater, Value.truthy]
  cases c.compare a b <;> rfl

/-- Turning an order round keeps its laws. -/
instance (direction : SortDirection) (s : Scope) :
    Std.TransCmp fun a b => directed direction (s.compare a b) := by
  cases direction with
  | ascending => exact inferInstanceAs (Std.TransCmp s.compare)
  | descending =>
      have hSwap : (fun a b => directed .descending (s.compare a b)) = fun a b => s.compare b a := by
        funext a b
        exact (swap_of_transCmp s.compare b a).symm
      rw [hSwap]
      exact Std.TransCmp.opposite

section

variable {c : Context} (hStandard : c.operators = .standard)
include hStandard

/-- Only the two operators are asked, and errors would count as false, but the answer is the
lexicographic one, also for lists of different lengths. -/
theorem orderKeys_eq_lexicographic (fields : List SortField) (as bs : List Value) :
    orderKeys c fields as bs = lexicographic (orderings c fields as bs) := by
  induction fields generalizing as bs with
  | nil => rfl
  | cons field fields ih =>
      cases as with
      | nil => rfl
      | cons a as =>
          cases bs with
          | nil => rfl
          | cons b bs =>
              rw [orderKeys, order_eq_compare hStandard, ih]
              exact (lexicographic_cons _ _).symm

/-- Exchanged keys come out the other way round. -/
theorem orderKeys_swap (fields : List SortField) (as bs : List Value) :
    orderKeys c fields as bs = (orderKeys c fields bs as).swap := by
  induction fields generalizing as bs with
  | nil => rfl
  | cons field fields ih =>
      cases as with
      | nil => cases bs <;> rfl
      | cons a as =>
          cases bs with
          | nil => rfl
          | cons b bs =>
              simp only [orderKeys, order_eq_compare hStandard, Ordering.swap_then]
              rw [← ih as bs, ← swap_of_transCmp
                (fun a b => directed field.direction (c.compare a b)) a b]

/-- Lists that are too short would compare equal to everything, so the lengths matter here. -/
theorem orderKeys_composes (fields : List SortField) (as bs cs : List Value)
    (ha : as.length = fields.length) (hb : bs.length = fields.length)
    (hc : cs.length = fields.length) :
    Composes (orderKeys c fields as bs) (orderKeys c fields bs cs) (orderKeys c fields as cs) := by
  induction fields generalizing as bs cs with
  | nil => simp [orderKeys, Composes]
  | cons field fields ih =>
      obtain ⟨a, as, rfl⟩ := List.exists_cons_of_length_eq_add_one ha
      obtain ⟨b, bs, rfl⟩ := List.exists_cons_of_length_eq_add_one hb
      obtain ⟨d, cs, rfl⟩ := List.exists_cons_of_length_eq_add_one hc
      simp only [List.length_cons, Nat.add_right_cancel_iff] at ha hb hc
      simp only [orderKeys, order_eq_compare hStandard]
      exact (composes_of_transCmp (fun a b => directed field.direction (c.compare a b)) a b d).then
        fun _ _ => ih as bs cs ha hb hc

/-- The order of keys is transitive. -/
theorem orderKeys_transCmp (fields : List SortField) :
    Std.TransCmp fun as bs : KeyVector fields => orderKeys c fields as.1 bs.1 :=
  transCmp_of_composes _ (fun as bs => orderKeys_swap hStandard fields as.1 bs.1)
    fun as bs cs => orderKeys_composes hStandard fields as.1 bs.1 cs.1 as.2 bs.2 cs.2

end

/-- With the standard operators, sorting by the operators `<` and `>` is sorting by the order of
values, field after field, and what it compares by is a total preorder of key vectors. -/
theorem orderKeys_lexicographic_preorder (c : Context) (hStandard : c.operators = .standard)
    (fields : List SortField) :
    ComparisonsAgree c ∧
    (∀ as bs, orderKeys c fields as bs = lexicographic (orderings c fields as bs)) ∧
    TotalPreorder fun as bs : KeyVector fields => orderKeys c fields as.1 bs.1 := by
  have hTrans := orderKeys_transCmp hStandard fields
  exact ⟨comparisonsAgree_of_standard hStandard, orderKeys_eq_lexicographic hStandard fields,
    .of_transCmp _⟩

/-- The second field decides, and turns the order of its values round. -/
theorem orderKeys_lexicographic_preorder_descending :
    Context.bare.operators = .standard ∧ ComparisonsAgree .bare ∧
    orderKeys .bare [⟨.name "a", .ascending⟩, ⟨.name "b", .descending⟩]
        [.array [.null], .boolean true] [.array [.null], .boolean false] =
      lexicographic [.eq, .lt] ∧
    TotalPreorder fun as bs : KeyVector [⟨.name "a", .ascending⟩, ⟨.name "b", .descending⟩] =>
      orderKeys .bare [⟨.name "a", .ascending⟩, ⟨.name "b", .descending⟩] as.1 bs.1 := by
  obtain ⟨hAgree, hEqual, hPreorder⟩ := orderKeys_lexicographic_preorder .bare rfl
    [⟨.name "a", .ascending⟩, ⟨.name "b", .descending⟩]
  refine ⟨rfl, hAgree, ?_, hPreorder⟩
  rw [hEqual]
  rfl

end Stage
end DocQuery
