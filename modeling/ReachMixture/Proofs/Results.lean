/-!
# Results of checked computations

A computation that can fail is a chain of `Except` values. These lemmas take
such a chain apart, for values that come back and for errors alike.

- `bind_eq_ok_iff`, `bind_eq_error_iff`: one link of a chain.
- `map_eq_ok_iff`, `map_eq_error_iff`: values that are rewritten at the end.
- `mapError_eq_ok_iff`, `mapError_eq_error_iff`: errors that are renamed on the
  way.
- `exists_ok_of_any`: the value of a computation that has been tested by running
  it.
-/

namespace ReachMixture

variable {ε ε' β δ : Type}

theorem pure_eq_ok_iff {x z : β} : (pure x : Except ε β) = .ok z ↔ x = z := by
  constructor
  · rintro ⟨⟩
    rfl
  · rintro rfl
    rfl

/-- A chain returns `z` iff its first link returns a value from which the rest
returns `z`. -/
theorem bind_eq_ok_iff {x : Except ε β} {f : β → Except ε δ} {z : δ} :
    (x >>= f) = .ok z ↔ ∃ y, x = .ok y ∧ f y = .ok z := by
  cases x with
  | error e =>
    constructor
    · intro h
      cases h
    · rintro ⟨y, hy, -⟩
      cases hy
  | ok y =>
    constructor
    · intro h
      exact ⟨y, rfl, h⟩
    · rintro ⟨y', hy, h⟩
      cases hy
      exact h

/-- A chain fails with `e` iff its first link does, or returns a value from
which the rest fails with `e`. -/
theorem bind_eq_error_iff {x : Except ε β} {f : β → Except ε δ} {e : ε} :
    (x >>= f) = .error e ↔ x = .error e ∨ ∃ y, x = .ok y ∧ f y = .error e := by
  cases x with
  | error e' =>
    constructor
    · intro h
      cases h
      exact .inl rfl
    · rintro (h | ⟨y, hy, -⟩)
      · cases h
        rfl
      · cases hy
  | ok y =>
    constructor
    · intro h
      exact .inr ⟨y, rfl, h⟩
    · rintro (h | ⟨y', hy, h⟩)
      · cases h
      · cases hy
        exact h

theorem map_eq_ok_iff {x : Except ε β} {f : β → δ} {z : δ} :
    x.map f = .ok z ↔ ∃ y, x = .ok y ∧ f y = z := by
  cases x with
  | error e =>
    constructor
    · intro h
      cases h
    · rintro ⟨y, hy, -⟩
      cases hy
  | ok y =>
    constructor
    · intro h
      exact ⟨y, rfl, Except.ok.inj h⟩
    · rintro ⟨y', hy, h⟩
      cases hy
      exact congrArg Except.ok h

theorem map_eq_error_iff {x : Except ε β} {f : β → δ} {e : ε} :
    x.map f = .error e ↔ x = .error e := by
  cases x with
  | error e' =>
    constructor
    · rintro ⟨⟩
      rfl
    · rintro ⟨⟩
      rfl
  | ok y =>
    constructor
    · intro h
      cases h
    · intro h
      cases h

theorem mapError_eq_ok_iff {x : Except ε β} {f : ε → ε'} {y : β} :
    x.mapError f = .ok y ↔ x = .ok y := by
  cases x with
  | error e =>
    constructor
    · intro h
      cases h
    · intro h
      cases h
  | ok y' =>
    constructor
    · rintro ⟨⟩
      rfl
    · rintro ⟨⟩
      rfl

theorem mapError_eq_error_iff {x : Except ε β} {f : ε → ε'} {e : ε'} :
    x.mapError f = .error e ↔ ∃ e', x = .error e' ∧ f e' = e := by
  cases x with
  | error e' =>
    constructor
    · intro h
      cases h
      exact ⟨e', rfl, rfl⟩
    · rintro ⟨e'', he, h⟩
      cases he
      exact congrArg Except.error h
  | ok y =>
    constructor
    · intro h
      cases h
    · rintro ⟨e', he, -⟩
      cases he

/-- A test that `r.toOption` passes is passed by a value of `r`. -/
theorem exists_ok_of_any {r : Except ε β} {p : β → Bool} (h : r.toOption.any p = true) :
    ∃ x, r = .ok x ∧ p x = true := by
  cases r with
  | error e => cases h
  | ok x => exact ⟨x, rfl, h⟩

end ReachMixture
