/-!
What a chain of computations that may fail has gone through when it succeeds.
-/

namespace DocQuery

/-- A computation succeeds when both parts do. -/
theorem bind_eq_ok_iff {ε α β : Type} {x : Except ε α} {f : α → Except ε β} {b : β} :
    (x >>= f) = .ok b ↔ ∃ a, x = .ok a ∧ f a = .ok b := by
  cases x with
  | error e =>
      constructor
      · nofun
      · rintro ⟨_, hOk, _⟩
        cases hOk
  | ok a =>
      constructor
      · intro h
        exact ⟨a, rfl, h⟩
      · rintro ⟨_, hOk, h⟩
        cases hOk
        exact h

/-- A computation fails with the first part that fails. -/
theorem bind_eq_error_iff {ε α β : Type} {x : Except ε α} {f : α → Except ε β} {e : ε} :
    (x >>= f) = .error e ↔ x = .error e ∨ ∃ a, x = .ok a ∧ f a = .error e := by
  cases x with
  | error e' =>
      constructor
      · intro h
        cases h
        exact .inl rfl
      · rintro (h | ⟨_, hOk, _⟩)
        · cases h
          rfl
        · cases hOk
  | ok a =>
      constructor
      · intro h
        exact .inr ⟨a, rfl, h⟩
      · rintro (h | ⟨_, hOk, h⟩)
        · cases h
        · cases hOk
          exact h

/-- Errors that are renamed do not make a failure a success. -/
theorem mapError_eq_ok_iff {ε ε' α : Type} {f : ε → ε'} {x : Except ε α} {a : α} :
    x.mapError f = .ok a ↔ x = .ok a := by
  cases x with
  | error e => exact iff_of_false nofun nofun
  | ok b =>
      constructor
      · intro h
        cases h
        rfl
      · intro h
        cases h
        rfl

/-- Chains of computations that agree up to their faults link by link agree up to the fault of the chain. -/
theorem mapError_bind_congr {ε ε' α β : Type} {g : ε → ε'} {x y : Except ε α} {f h : α → Except ε β}
    (hFirst : x.mapError g = y.mapError g) (hThen : ∀ a, (f a).mapError g = (h a).mapError g) :
    (x >>= f).mapError g = (y >>= h).mapError g := by
  cases x with
  | error e =>
      cases y with
      | error e' => exact congrArg Except.error (Except.error.inj hFirst)
      | ok b => cases hFirst
  | ok a =>
      cases y with
      | error e' => cases hFirst
      | ok b =>
          cases hFirst
          exact hThen a

end DocQuery
