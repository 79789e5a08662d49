/-!
Comparisons that are total preorders. `Composes` is what two consecutive comparisons say about the
one from end to end; in this form it passes through lexicographic combination without any further
condition.
-/

namespace DocQuery

/-- Two steps that do not go down make a step that does not go down, and that goes up as soon as
one of the two does. -/
def Composes (ab bc ac : Ordering) : Prop :=
  ab ≠ .gt → bc ≠ .gt → ac ≠ .gt ∧ (ab = .lt ∨ bc = .lt → ac = .lt)

/-- A comparison that orders everything, up to things that it does not tell apart. -/
structure TotalPreorder {α : Type} (cmp : α → α → Ordering) : Prop where
  self : ∀ a, cmp a a = .eq
  swap : ∀ a b, cmp a b = (cmp b a).swap
  trans : ∀ a b c, Composes (cmp a b) (cmp b c) (cmp a c)

/-- Orders of a transitive comparison compose. -/
theorem composes_of_transCmp {α : Type} (cmp : α → α → Ordering) [Std.TransCmp cmp]
    (a b c : α) : Composes (cmp a b) (cmp b c) (cmp a c) := by
  intro hab hbc
  have hFirst : (cmp a b).isLE := Ordering.isLE_iff_ne_gt.mpr hab
  have hSecond : (cmp b c).isLE := Ordering.isLE_iff_ne_gt.mpr hbc
  refine ⟨Ordering.isLE_iff_ne_gt.mp (Std.TransCmp.isLE_trans hFirst hSecond), ?_⟩
  rintro (hLess | hLess)
  · exact Std.TransCmp.lt_of_lt_of_isLE hLess hSecond
  · exact Std.TransCmp.lt_of_isLE_of_lt hFirst hLess

theorem swap_of_transCmp {α : Type} (cmp : α → α → Ordering) [Std.TransCmp cmp] (a b : α) :
    cmp a b = (cmp b a).swap :=
  Std.OrientedCmp.eq_swap

/-- What is on neither side of the other is equal to it. -/
theorem eq_of_not_gt {α : Type} {cmp : α → α → Ordering} [Std.TransCmp cmp] {a b : α}
    (hUp : cmp a b ≠ .gt) (hDown : cmp b a ≠ .gt) : cmp a b = .eq :=
  Std.OrientedCmp.isLE_antisymm (Ordering.isLE_iff_ne_gt.mpr hUp) (Ordering.isLE_iff_ne_gt.mpr hDown)

/-- A transitive comparison is a total preorder. -/
theorem TotalPreorder.of_transCmp {α : Type} (cmp : α → α → Ordering) [Std.TransCmp cmp] :
    TotalPreorder cmp where
  self _ := Std.ReflCmp.compare_self
  swap := swap_of_transCmp cmp
  trans := composes_of_transCmp cmp

/-- A comparison that swaps and composes carries the order laws of the library. -/
theorem transCmp_of_composes {α : Type} (cmp : α → α → Ordering)
    (hSwap : ∀ a b, cmp a b = (cmp b a).swap)
    (hTrans : ∀ a b c, Composes (cmp a b) (cmp b c) (cmp a c)) : Std.TransCmp cmp where
  eq_swap := hSwap _ _
  isLE_trans hab hbc :=
    Ordering.isLE_iff_ne_gt.mpr (hTrans _ _ _ (Ordering.isLE_iff_ne_gt.mp hab)
      (Ordering.isLE_iff_ne_gt.mp hbc)).1

/-- Things may be compared by what they are taken to. -/
theorem transCmp_comap {α β : Type} (cmp : α → α → Ordering) [Std.TransCmp cmp] (f : β → α) :
    Std.TransCmp fun a b => cmp (f a) (f b) where
  eq_swap := Std.OrientedCmp.eq_swap
  isLE_trans := Std.TransCmp.isLE_trans

/-- Lexicographic combination: the second comparisons need to compose only where both first ones
leave the matter open. If the first ones go up somewhere, they decide the whole. -/
theorem Composes.then {ab bc ac ab' bc' ac' : Ordering} (h : Composes ab bc ac)
    (h' : ab = .eq → bc = .eq → Composes ab' bc' ac') :
    Composes (ab.then ab') (bc.then bc') (ac.then ac') := by
  have decided (hLess : ac = .lt) :
      ac.then ac' ≠ .gt ∧ (ab.then ab' = .lt ∨ bc.then bc' = .lt → ac.then ac' = .lt) := by
    subst ac
    exact ⟨nofun, fun _ => rfl⟩
  intro hab hbc
  cases ab with
  | gt => exact absurd rfl hab
  | lt =>
      have hNotDown : bc ≠ .gt := by
        rintro rfl
        exact hbc rfl
      exact decided ((h nofun hNotDown).2 (Or.inl rfl))
  | eq =>
      cases bc with
      | gt => exact absurd rfl hbc
      | lt => exact decided ((h nofun nofun).2 (Or.inr rfl))
      | eq =>
          cases ac with
          | lt => exact decided rfl
          | gt => exact absurd rfl (h nofun nofun).1
          | eq => exact h' rfl rfl hab hbc

end DocQuery
