import DocQuery.Value.Order
import DocQuery.Proofs.Ordering

/-!
The order of values is a total preorder, whatever the function that normalizes link paths. Keys are
ordered by type first, so keys of different types never need a look inside; within a type the order
is lexicographic, and the induction goes through items and fields.
-/

namespace DocQuery

instance : Std.TransOrd ValueType :=
  inferInstanceAs (Std.TransCmp (compareOn ValueType.ctorIdx))

instance : Std.LawfulEqOrd ValueType where
  eq_of_compare {a b} h := by
    have hIndex : a.ctorIdx = b.ctorIdx := Nat.compare_eq_eq.mp h
    cases a <;> cases b <;> first | rfl | cases hIndex

instance : Std.TransOrd LinkKind :=
  inferInstanceAs (Std.TransCmp (compareOn LinkKind.ctorIdx))

namespace SortKey

theorem compareOptional_eq_compare (s t : Option String) :
    compareOptional s t = Ord.compare s t := by
  cases s <;> cases t <;> rfl

/-- Two keys of one type, taken apart together. -/
inductive SameType : SortKey → SortKey → Prop where
  | null : SameType null null
  | boolean (a b : Bool) : SameType (boolean a) (boolean b)
  | number (a b : Int) : SameType (number a) (number b)
  | string (f a g b : String) : SameType (string f a) (string g b)
  | date (s : Int) (m : Nat) (t : Int) (n : Nat) : SameType (date s m) (date t n)
  | duration (a b : Int) : SameType (duration a) (duration b)
  | link (p : String) (k : LinkKind) (s : Option String) (q : String) (l : LinkKind)
      (t : Option String) : SameType (link p k s) (link q l t)
  | array (as bs : List SortKey) : SameType (array as) (array bs)
  | object (as bs : List (String × SortKey)) : SameType (object as) (object bs)
  | widget (a b : String) : SameType (widget a) (widget b)

/-- Keys of one type can be taken apart together. -/
theorem sameType_of_type_eq {a b : SortKey} (h : a.type = b.type) : SameType a b := by
  cases a <;> cases b <;> first | constructor | cases h

/-- Keys of different types are ordered as their types are. -/
theorem compare_of_type_ne {a b : SortKey} (h : a.type ≠ b.type) :
    SortKey.compare a b = Ord.compare a.type b.type := by
  cases a <;> cases b <;> first | exact absurd rfl h | simp only [SortKey.compare]

/-- The types come first in every comparison, also where they do not decide. -/
theorem compare_eq_type_then (a b : SortKey) :
    SortKey.compare a b = (Ord.compare a.type b.type).then (SortKey.compare a b) := by
  by_cases h : a.type = b.type
  · rw [h, Std.ReflOrd.compare_self]
    rfl
  · rw [compare_of_type_ne h]
    cases Ord.compare a.type b.type <;> rfl

theorem swap_of_type_eq {a b : SortKey}
    (h : a.type = b.type → SortKey.compare a b = (SortKey.compare b a).swap) :
    SortKey.compare a b = (SortKey.compare b a).swap := by
  by_cases hType : a.type = b.type
  · exact h hType
  · rw [compare_of_type_ne hType, compare_of_type_ne (Ne.symm hType)]
    exact swap_of_transCmp Ord.compare a.type b.type

/-- Only chains within one type need a look inside. -/
theorem composes_of_type_eq {a b c : SortKey}
    (h : a.type = b.type → b.type = c.type →
      Composes (SortKey.compare a b) (SortKey.compare b c) (SortKey.compare a c)) :
    Composes (SortKey.compare a b) (SortKey.compare b c) (SortKey.compare a c) := by
  rw [compare_eq_type_then a b, compare_eq_type_then b c, compare_eq_type_then a c]
  refine (composes_of_transCmp Ord.compare a.type b.type c.type).then fun hab hbc => ?_
  exact h (Std.LawfulEqOrd.eq_of_compare hab) (Std.LawfulEqOrd.eq_of_compare hbc)

mutual

/-- Exchanged keys come out the other way round. The induction is over the keys, and the types decide where
they differ. -/
theorem compare_swap (a b : SortKey) : SortKey.compare a b = (SortKey.compare b a).swap := by
  apply swap_of_type_eq
  intro hType
  cases a with
  | null =>
      cases sameType_of_type_eq hType
      rfl
  | boolean _ | number _ | duration _ | widget _ =>
      cases sameType_of_type_eq hType
      simp only [SortKey.compare]
      exact swap_of_transCmp Ord.compare _ _
  | string first second | date first second =>
      cases sameType_of_type_eq hType
      simp only [SortKey.compare, Ordering.swap_then]
      rw [swap_of_transCmp Ord.compare first, swap_of_transCmp Ord.compare second]
  | link path kind subpath =>
      cases sameType_of_type_eq hType
      simp only [SortKey.compare, compareOptional_eq_compare, Ordering.swap_then]
      rw [swap_of_transCmp Ord.compare path, swap_of_transCmp Ord.compare kind,
        swap_of_transCmp Ord.compare subpath]
  | array as =>
      cases sameType_of_type_eq hType
      simp only [SortKey.compare]
      exact compareItems_swap as _
  | object as =>
      cases sameType_of_type_eq hType
      simp only [SortKey.compare]
      exact compareFields_swap as _

/-- Exchanged lists of keys come out the other way round. -/
theorem compareItems_swap (as bs : List SortKey) :
    compareItems as bs = (compareItems bs as).swap := by
  cases as with
  | nil => cases bs <;> rfl
  | cons a as =>
      cases bs with
      | nil => rfl
      | cons b bs =>
          simp only [compareItems, Ordering.swap_then]
          rw [compare_swap a b, compareItems_swap as bs]

theorem compareFields_swap (as bs : List (String × SortKey)) :
    compareFields as bs = (compareFields bs as).swap := by
  match as with
  | [] => cases bs <;> rfl
  | (m, a) :: as =>
      cases bs with
      | nil => rfl
      | cons b bs =>
          simp only [compareFields, Ordering.swap_then]
          rw [swap_of_transCmp Ord.compare m, compare_swap a b.2, compareFields_swap as bs]

end

mutual

/-- The order of keys is transitive. Where one type differs from another, the types decide already. -/
theorem compare_composes (a b c : SortKey) :
    Composes (SortKey.compare a b) (SortKey.compare b c) (SortKey.compare a c) := by
  apply composes_of_type_eq
  intro hab hbc
  -- The first key carries the induction; its type fixes the form of the other two.
  cases a with
  | null | boolean _ | number _ | duration _ | widget _ =>
      cases sameType_of_type_eq hab
      cases sameType_of_type_eq hbc
      simp only [SortKey.compare]
      exact composes_of_transCmp Ord.compare _ _ _
  | string _ _ | date _ _ =>
      cases sameType_of_type_eq hab
      cases sameType_of_type_eq hbc
      simp only [SortKey.compare]
      exact (composes_of_transCmp Ord.compare _ _ _).then fun _ _ =>
        composes_of_transCmp Ord.compare _ _ _
  | link _ _ _ =>
      cases sameType_of_type_eq hab
      cases sameType_of_type_eq hbc
      simp only [SortKey.compare, compareOptional_eq_compare]
      exact (composes_of_transCmp Ord.compare _ _ _).then fun _ _ =>
        (composes_of_transCmp Ord.compare _ _ _).then fun _ _ =>
          composes_of_transCmp Ord.compare _ _ _
  | array as =>
      cases sameType_of_type_eq hab
      cases sameType_of_type_eq hbc
      simp only [SortKey.compare]
      exact compareItems_composes as _ _
  | object as =>
      cases sameType_of_type_eq hab
      cases sameType_of_type_eq hbc
      simp only [SortKey.compare]
      exact compareFields_composes as _ _

/-- The order of lists of keys is transitive. -/
theorem compareItems_composes (as bs cs : List SortKey) :
    Composes (compareItems as bs) (compareItems bs cs) (compareItems as cs) := by
  cases as with
  | nil => cases bs <;> cases cs <;> simp [compareItems, Composes]
  | cons a as =>
      cases bs with
      | nil => cases cs <;> simp [compareItems, Composes]
      | cons b bs =>
          cases cs with
          | nil => simp [compareItems, Composes]
          | cons c cs =>
              simp only [compareItems]
              exact (compare_composes a b c).then fun _ _ => compareItems_composes as bs cs

theorem compareFields_composes (as bs cs : List (String × SortKey)) :
    Composes (compareFields as bs) (compareFields bs cs) (compareFields as cs) := by
  match as with
  | [] => cases bs <;> cases cs <;> simp [compareFields, Composes]
  | (m, a) :: as =>
      cases bs with
      | nil => cases cs <;> simp [compareFields, Composes]
      | cons b bs =>
          cases cs with
          | nil => simp [compareFields, Composes]
          | cons c cs =>
              simp only [compareFields]
              exact (composes_of_transCmp Ord.compare m b.1 c.1).then fun _ _ =>
                (compare_composes a b.2 c.2).then fun _ _ => compareFields_composes as bs cs

end

instance : Std.TransCmp SortKey.compare :=
  transCmp_of_composes SortKey.compare compare_swap compare_composes

end SortKey

namespace Value

instance (normalize : String → String) : Std.TransCmp (compareBy normalize) :=
  transCmp_of_composes (compareBy normalize) (fun _ _ => SortKey.compare_swap _ _)
    fun _ _ _ => SortKey.compare_composes _ _ _

/-- Whatever two link paths are normalized to, values of all types and all depths of nesting stand in
one total preorder. -/
theorem compareBy_totalPreorder (normalize : String → String) :
    TotalPreorder (compareBy normalize) :=
  .of_transCmp (compareBy normalize)

example : Value.compare (.object [("b", .null), ("a", .array [])])
    (.object [("a", .array []), ("b", .null), ("c", .null)]) = .lt := by decide

end Value
end DocQuery
