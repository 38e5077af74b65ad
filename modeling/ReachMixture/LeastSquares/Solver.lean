import ReachMixture.Capacity
import ReachMixture.LeastSquares.ActiveSet
import ReachMixture.LeastSquares.MinimumNorm

/-!
# Solvers

What fitting asks of a nonnegative least squares method, and the method that the
library brings along.

- `Solution`, `Solver`: the contract. A solver is any function; nothing is
  promised about its answers. Besides it says how much it keeps in memory, which
  `Solver.reserve` asks for.
- `gramSolve`: trials through the normal equations, with a fallback for columns
  that are too close together.
- `activeSet`: the active-set method as a solver.
-/

namespace ReachMixture.LeastSquares

variable {α : Type}

/-- The answer of a `Solver`. -/
structure Solution (α : Type) where
  /-- One coefficient per column, if the solver keeps its contract. A list,
  because the contract is checked where the answer is used. -/
  coefficients : List α
  /-- The residual norm `‖A x - b‖`. -/
  residual : α
  /-- The iterations spent. -/
  iterations : Nat
  /-- False if the solver stopped early; the coefficients are then the best it
  has. -/
  converged : Bool

/-- A nonnegative least-squares method. The fit depends on a solver through this
structure only. -/
structure Solver (α : Type) where
  /-- The answer for a problem with `n` rows and `k` columns. -/
  solve : {n k : Nat} → Design α n k → Solution α
  /-- The numbers kept for each of the `k` columns, besides the problem itself,
  while a problem with `n` rows is solved. A method keeps none unless it says
  so. -/
  kept : (n k : Nat) → Nat := fun _ _ => 0

/-- Asks for the block in which `solver` keeps `solver.kept n k` numbers for
each of `k` columns. -/
def Solver.reserve (solver : Solver α) (n k : Nat) : Except (Fault α) Unit :=
  Capacity.reserve (k * solver.kept n k)

/-- The trial by `solvePivots` on the normal equations of the columns `idx`, if
its result is finite, or else by `fallback` on the restricted problem. `scatter`
puts the result back among all columns. -/
def gramSolve [Zero α] [Add α] [Sub α] [Mul α] [Div α] [LT α] [DecidableLT α] [Scalar α]
    (fallback : {n k : Nat} → Design α n k → Option (Vector α k)) : PassiveSolve α where
  trial d e idx :=
    let restricted := e.select idx
    let direct := (solvePivots restricted.gram restricted.correlation).filter fun z =>
      z.all Scalar.isFinite
    (direct <|> fallback (d.select idx)).map (scatter idx)

/-- Trials over binary64 numbers, with the minimum-norm solution as fallback. -/
def floatSolve : PassiveSolve Float := gramSolve Design.minimumNorm

section ActiveSet

variable [Zero α] [One α] [Add α] [Sub α] [Mul α] [Div α] [LT α] [LE α]
  [DecidableLT α] [DecidableLE α]
variable [NatCast α] [Scalar α]

/-- The active-set method as a solver. It keeps the Gram matrix, `k` inner
products for each of the `k` columns. -/
def activeSet (inner : PassiveSolve α) (cap : Nat) : Solver α where
  kept _ k := k
  solve d :=
    let r := ActiveSet.solve inner cap d
    { coefficients := r.state.point.toList
      residual := d.residual r.state.point
      iterations := r.iterations
      converged := r.ending == .converged }

end ActiveSet

/-- The cap on iterations unless a caller sets one. -/
def defaultCap : Nat := 1000

end ReachMixture.LeastSquares
