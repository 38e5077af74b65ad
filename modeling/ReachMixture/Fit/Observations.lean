import ReachMixture.LeastSquares.Solver
import ReachMixture.Mixture.Reach

/-!
# Observations

What a mixture is fitted to: the identifier counts of some audiences and their
observed reach. Every fit starts from observations whose shapes agree.

- `Observations.ofTable`: the checks shared by all fits.
- `Observations.solveWeights`: weights for given locations. Every solve of the
  library is made by it: for the rows of a table (`fitWeights`), for the pool of
  a step, and for the true locations of a run.
- `Observations.measure`: how far a prediction is from the observed reach.
-/

namespace ReachMixture

variable {α : Type}

/-- Audiences with their observed reach. The two bounds make an empty signal
impossible to state. -/
structure Observations (α : Type) where
  /-- The number of audiences. -/
  rows : Nat
  /-- The number of identifier types. -/
  dims : Nat
  /-- The identifier counts of each audience. -/
  signal : Vector (Vector α dims) rows
  /-- The observed reach of each audience. -/
  target : Vector α rows
  /-- There is an audience. -/
  rows_pos : 0 < rows
  /-- There is an identifier type. -/
  dims_pos : 0 < dims

namespace Observations

/-- Observations from a table of counts and a list of reaches. An empty table is
refused before the lengths are compared. -/
def ofTable (signal : Table α) (target : List α) : Except (Fault α) (Observations α) :=
  if h : 0 < signal.rows ∧ 0 < signal.cols then
    if ht : target.length = signal.rows then
      .ok ⟨signal.rows, signal.cols, signal.vectors, Vec.ofList target ht, h.1, h.2⟩
    else .error (.shapeMismatch .targetLength signal.rows target.length)
  else .error .emptySignal

variable [Zero α] [Add α] [Mul α] [Neg α] [Scalar α]

/-- The least-squares problem for the weights of `locations` on these
observations. -/
def design (o : Observations α) (locations : List (Vector α o.dims)) :
    LeastSquares.Design α o.rows locations.length :=
  ReachMixture.design o.signal o.target locations

/-- The answer of `solver` for the weights of `k` locations. The basis is one
block of `k * o.rows` numbers, and what `solver` keeps is another; the
`locations` are a thunk, so that they are not listed before there is room for
both. An early stop of the solver is no fault. -/
def solveWeights (o : Observations α) (solver : LeastSquares.Solver α) (k : Nat)
    (locations : Thunk (Vector (Vector α o.dims) k)) :
    Except (Fault α) (LeastSquares.Solution α) := do
  Capacity.reserve (k * o.rows)
  solver.reserve o.rows k
  return solver.solve (o.design locations.get.toList)

/-- `‖predict components - target‖`, with the blocks of `Component.evaluate`. -/
def measure [Sub α] (o : Observations α) (components : List (Component α o.dims)) :
    Except (Fault α) α := do
  return Vec.distance (← Component.evaluate components o.signal) o.target

end Observations

variable [Zero α] [Add α] [Mul α] [Neg α] [Scalar α]

/-- Nonnegative weights for the rows of `locations`, as `solver` finds them. The
checks of `Observations.ofTable` come before that of the columns. -/
def fitWeights (solver : LeastSquares.Solver α)
    (locations signal : Table α) (target : List α) :
    Except (Fault α) (LeastSquares.Solution α) := do
  let o ← Observations.ofTable signal target
  if h : locations.cols =
    o.dims then o.solveWeights solver locations.rows (locations.vectorsOf h)
  else .error (.shapeMismatch .locationColumns o.dims locations.cols)

/-- `‖prediction - target‖` for weights at the rows of `locations` on the rows
of `signal`. A target of another length than `signal.rows` aborts, after the
prediction has been made. -/
def measureTable [Sub α] (weights : List α) (locations signal : Table α)
    (target : List α) :
    Except (Fault α) α := do
  let prediction ← predictTable weights locations signal
  if h : target.length = signal.rows then
    return Vec.distance prediction (Vec.ofList target h)
  else .error (.aborted .dimensionMismatch)

end ReachMixture
