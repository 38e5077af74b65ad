import ReachMixture.Fit.Candidates
import ReachMixture.Fit.Observations
import ReachMixture.Proofs.Results

/-!
# Room

Every block is asked for by `Capacity.reserve` before anything is computed. So
each of the computations that all entry points share returns what the plain
formula says, if its blocks can be had, and is aborted with `overCapacity`
otherwise. There is no third way.

- `Capacity.reserve_bind_eq_ok_iff`, `Capacity.reserve_bind_eq_error_iff`: one
  request in a chain.
- `Component.evaluate_eq_ok_iff`: predictions are `predict`.
- `Observations.measure_eq_ok_iff`: distances are `Observations.distance`.
- `Observations.solveWeights_eq_ok_iff`: solves are the solver's answer for
  `design`.
- `Observations.HasRoom`: the blocks of one step of a fit.
-/

namespace ReachMixture

variable {α β γ : Type} {n m : Nat}

/-! ## Requests -/

namespace Capacity

theorem reserve_eq_ok {count : Nat} (h : count < entries) :
    (reserve count : Except (Fault α) Unit) = .ok () :=
  if_neg (Nat.not_le.mpr h)

theorem reserve_eq_error {count : Nat} (h : entries ≤ count) :
    (reserve count : Except (Fault α) Unit) = .error (.aborted .overCapacity) :=
  if_pos h

/-- `reserve count >>= next` succeeds iff `next` does and the block can be had. -/
theorem reserve_bind_eq_ok_iff {count : Nat} {next : Unit → Except (Fault α) β} {z : β} :
    (reserve count >>= next) = .ok z ↔ count < entries ∧ next () = .ok z := by
  by_cases h : count < entries
  · rw [reserve_eq_ok h]
    exact (and_iff_right h).symm
  · rw [reserve_eq_error (Nat.not_lt.mp h)]
    constructor
    · intro herror
      cases herror
    · rintro ⟨hroom, -⟩
      exact absurd hroom h

/-- `reserve count >>= next` fails iff the block cannot be had, or `next` fails. -/
theorem reserve_bind_eq_error_iff {count : Nat} {next : Unit → Except (Fault α) β}
    {fault : Fault α} :
    (reserve count >>= next) = .error fault ↔
      entries ≤ count ∧ fault = .aborted .overCapacity ∨
      count < entries ∧ next () = .error fault := by
  by_cases h : count < entries
  · rw [reserve_eq_ok h]
    constructor
    · intro herror
      exact .inr ⟨h, herror⟩
    · rintro (⟨hroom, -⟩ | ⟨-, herror⟩)
      · exact absurd h (Nat.not_lt.mpr hroom)
      · exact herror
  · rw [reserve_eq_error (Nat.not_lt.mp h)]
    constructor
    · intro herror
      cases herror
      exact .inl ⟨Nat.not_lt.mp h, rfl⟩
    · rintro (⟨-, rfl⟩ | ⟨hroom, -⟩)
      · rfl
      · exact absurd hroom h

end Capacity

/-- `drawUniform` is `drawSignal` if there is room for the signal. -/
theorem drawUniform_eq_ok_iff [RandomSource γ α] {rows dims : Nat} {g : γ}
    {drawn : Vector (Vector α dims) rows × γ} :
    drawUniform rows dims g = .ok drawn ↔
      rows * dims < Capacity.entries ∧ drawSignal rows dims g = drawn := by
  rw [drawUniform, Capacity.reserve_bind_eq_ok_iff, pure_eq_ok_iff]

/-! ## Predictions and solves -/

section Computations

variable [Zero α] [Add α] [Mul α] [Neg α] [Scalar α]

/-- **A prediction** comes back iff the reach of every location on every
audience and the sums over the locations have room, and then it is `predict`. -/
theorem Component.evaluate_eq_ok_iff {components : List (Component α m)}
    {signal : Thunk (Vector (Vector α m) n)} {v : Vector α n} :
    Component.evaluate components signal = .ok v ↔
      components.length * n < Capacity.entries ∧ n < Capacity.entries ∧
        predict components signal.get = v := by
  rw [Component.evaluate, Capacity.reserve_bind_eq_ok_iff,
    Capacity.reserve_bind_eq_ok_iff, pure_eq_ok_iff]

namespace Observations

variable (o : Observations α)

/-- The distance between the prediction of `components` and the observed reach. -/
def distance [Sub α] (components : List (Component α o.dims)) : α :=
  Vec.distance (predict components o.signal) o.target

variable {o}

/-- **A distance** is measured iff the prediction has room, and then it is
`distance`. -/
theorem measure_eq_ok_iff [Sub α] {components : List (Component α o.dims)} {d : α} :
    o.measure components = .ok d ↔
      components.length * o.rows < Capacity.entries ∧ o.rows < Capacity.entries ∧
        o.distance components = d := by
  rw [measure, bind_eq_ok_iff]
  constructor
  · rintro ⟨v, hv, hd⟩
    obtain ⟨hreach, hsums, rfl⟩ := Component.evaluate_eq_ok_iff.mp hv
    cases hd
    exact ⟨hreach, hsums, rfl⟩
  · rintro ⟨hreach, hsums, rfl⟩
    exact ⟨_, Component.evaluate_eq_ok_iff.mpr ⟨hreach, hsums, rfl⟩, rfl⟩

/-- **A solve** comes back iff the reach of every location on every audience and
what the solver keeps have room, and then it is the solver's answer for the
locations' `design`. -/
theorem solveWeights_eq_ok_iff {solver : LeastSquares.Solver α} {k : Nat}
    {locations : Thunk (Vector (Vector α o.dims) k)}
    {solution : LeastSquares.Solution α} :
    o.solveWeights solver k locations = .ok solution ↔
      k * o.rows < Capacity.entries ∧ k * solver.kept o.rows k < Capacity.entries ∧
        solver.solve (o.design locations.get.toList) = solution := by
  rw [solveWeights, LeastSquares.Solver.reserve, Capacity.reserve_bind_eq_ok_iff,
    Capacity.reserve_bind_eq_ok_iff, pure_eq_ok_iff]

/-- `solveWeights` can only be aborted, for want of room. -/
theorem solveWeights_eq_error_iff {solver : LeastSquares.Solver α} {k : Nat}
    {locations : Thunk (Vector (Vector α o.dims) k)} {fault : Fault α} :
    o.solveWeights solver k locations = .error fault ↔
      fault = .aborted .overCapacity ∧
        ¬ (k * o.rows < Capacity.entries ∧
          k * solver.kept o.rows k < Capacity.entries) := by
  rw [solveWeights, LeastSquares.Solver.reserve, Capacity.reserve_bind_eq_error_iff,
    Capacity.reserve_bind_eq_error_iff]
  constructor
  · rintro (⟨hreach, rfl⟩ | ⟨-, ⟨hkept, rfl⟩ | ⟨-, h⟩⟩)
    · exact ⟨rfl, fun h => absurd h.1 (Nat.not_lt.mpr hreach)⟩
    · exact ⟨rfl, fun h => absurd h.2 (Nat.not_lt.mpr hkept)⟩
    · cases h
  · rintro ⟨rfl, hroom⟩
    by_cases hreach : k * o.rows < Capacity.entries
    · exact .inr ⟨hreach, .inl ⟨Nat.not_lt.mp fun hkept => hroom ⟨hreach, hkept⟩, rfl⟩⟩
    · exact .inl ⟨Nat.not_lt.mp hreach, rfl⟩

variable (o)

/-- `o.HasRoom solver k`: the blocks of a step whose pool has `k` locations can
be had. These are the coordinates of the pool, its reach on every audience, and
what `solver` keeps. -/
structure HasRoom (solver : LeastSquares.Solver α) (k : Nat) : Prop where
  /-- The coordinates of the pool. -/
  pool : k * o.dims < Capacity.entries
  /-- The reach of every location on every audience. -/
  reach : k * o.rows < Capacity.entries
  /-- What the solver keeps for every location. -/
  solver : k * solver.kept o.rows k < Capacity.entries

omit [Zero α] [Add α] [Mul α] [Neg α] [Scalar α] in
theorem hasRoom_iff {solver : LeastSquares.Solver α} {k : Nat} :
    o.HasRoom solver k ↔ k * o.dims < Capacity.entries ∧ k * o.rows < Capacity.entries ∧
      k * solver.kept o.rows k < Capacity.entries :=
  ⟨fun h => ⟨h.pool, h.reach, h.solver⟩, fun h => ⟨h.1, h.2.1, h.2.2⟩⟩

instance (solver : LeastSquares.Solver α) (k : Nat) : Decidable (o.HasRoom solver k) :=
  decidable_of_iff' _ o.hasRoom_iff

variable {o} in
/-- Where a pool has room, it is solved for. -/
theorem HasRoom.solveWeights {solver : LeastSquares.Solver α}
    {pool : List (Vector α o.dims)} (h : o.HasRoom solver pool.length) :
    o.solveWeights solver pool.length (Vec.ofList pool rfl) =
      .ok (solver.solve (o.design pool)) :=
  solveWeights_eq_ok_iff.mpr ⟨h.reach, h.solver, rfl⟩

omit [Zero α] [Add α] [Mul α] [Neg α] [Scalar α] in
/-- An empty pool takes no room. -/
theorem hasRoom_zero (solver : LeastSquares.Solver α) : o.HasRoom solver 0 := by
  rw [hasRoom_iff, Nat.zero_mul, Nat.zero_mul, Nat.zero_mul]
  decide

omit [Neg α] in
/-- `HasRoom` for `activeSet` is monotone: where a pool has room, a smaller one
has. -/
theorem HasRoom.mono {o : Observations α} [One α] [Sub α] [Div α]
    [LT α] [LE α] [DecidableLT α] [DecidableLE α] [NatCast α]
    {inner : LeastSquares.PassiveSolve α} {cap k k' : Nat}
    (h : o.HasRoom (LeastSquares.activeSet inner cap) k') (hle : k ≤ k') :
    o.HasRoom (LeastSquares.activeSet inner cap) k where
  pool := Nat.lt_of_le_of_lt (Nat.mul_le_mul_right _ hle) h.pool
  reach := Nat.lt_of_le_of_lt (Nat.mul_le_mul_right _ hle) h.reach
  solver := Nat.lt_of_le_of_lt (Nat.mul_le_mul hle hle) h.solver

end Observations

end Computations

end ReachMixture
