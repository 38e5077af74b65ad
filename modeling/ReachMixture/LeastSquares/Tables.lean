import ReachMixture.LeastSquares.Solver
import ReachMixture.Linear.Table

/-!
# Least squares on tables

Solves for matrices whose shape is only known when they are read. A right-hand
side whose length is not the number of rows has no meaning; only a matrix
without columns takes any right-hand side.
-/

namespace ReachMixture.LeastSquares

variable {α : Type}

/-- The problem of the matrix `a` and the right-hand side `b`;
`dimensionMismatch` if `b` does not have an entry per row. -/
def Design.ofTable (a : Table α) (b : List α) :
    Except (Fault α) (Design α a.rows a.cols) :=
  if h : b.length = a.rows then
    .ok { columns := Vector.ofFn fun j => Vector.ofFn fun i => (a.row i).get j
          target := Vec.ofList b h }
  else .error (.aborted .dimensionMismatch)

/-- Nonnegative least squares for a table. What `solver` keeps is asked for
before the sizes of `a` and `b` are compared; a table without columns needs no
solver. -/
def solveTable [Zero α] [Add α] [Mul α] [Scalar α] (solver : Solver α) (a : Table α)
    (b : List α) : Except (Fault α) (Solution α) :=
  if a.cols = 0 then
    .ok { coefficients := [], residual := Vec.norm (Vec.ofList b rfl), iterations := 0,
          converged := true }
  else do
    solver.reserve a.rows a.cols
    return solver.solve (← Design.ofTable a b)

/-- `Design.minimumNorm` for a table, with `none` if no cutoff gives finite
coefficients. A table without entries has no decomposition and aborts. -/
def minimumNormTable (x : Table Float) (y : List Float) :
    Except (Fault Float) (Option (List Float)) :=
  if x.rows = 0 ∨ x.cols = 0 then .error (.aborted .emptyMatrix)
  else (Design.ofTable x y).map fun d => d.minimumNorm.map Vector.toList

end ReachMixture.LeastSquares
