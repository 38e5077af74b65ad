import ReachMixture.LeastSquares.Design

/-!
# Symmetric systems with positive pivots

A symmetric positive definite system is solved by symmetric elimination: the
first pivot must be positive, and its square root divides the first column; the
other rows lose their multiple of that column, and the smaller system is solved
in the same way. The elimination answers `none` as soon as a pivot is zero,
negative or undefined.

- `solvePivots`: the elimination.
- `Normal.select`, `Design.select`: a problem restricted to some of its columns.
- `scatter`: coefficients of some columns as coefficients of all columns.
-/

namespace ReachMixture.LeastSquares

variable {α : Type} {n k : Nat}

/-- The solution `z` of `m z = b` by Cholesky elimination, for a symmetric `m`
all of whose pivots are positive; `none` at the first pivot that is not. Each
step divides by the root of the pivot and passes to the Schur complement. -/
def solvePivots [Zero α] [Add α] [Sub α] [Mul α] [Div α] [LT α]
    [DecidableLT α] [Scalar α] :
    {k : Nat} → Vector (Vector α k) k → Vector α k → Option (Vector α k)
  | 0, _, _ => some #v[]
  | k + 1, m, b =>
    if (0 : α) < m[0][0] then
      let root := Scalar.sqrt m[0][0]
      let lower : Vector α k := Vector.ofFn fun i => m[i.val + 1][0] / root
      let lead := b[0] / root
      let rest : Vector (Vector α k) k := Vector.ofFn fun i => Vector.ofFn fun j =>
        m[i.val + 1][j.val + 1] - lower.get i * lower.get j
      let right : Vector α k := Vector.ofFn fun i => b[i.val + 1] - lead * lower.get i
      (solvePivots rest right).map fun z =>
        let first := (lead - Vec.dot lower z) / root
        Vector.ofFn fun i => Fin.cases first (fun j => z.get j) i
    else none

/-- The normal equations of the columns `idx`. -/
def Normal.select (e : Normal α k) (idx : List (Fin k)) : Normal α idx.length where
  gram := Vector.ofFn fun p => Vector.ofFn fun q =>
    (e.gram.get (idx.get p)).get (idx.get q)
  correlation := Vector.ofFn fun p => e.correlation.get (idx.get p)

/-- The problem that has only the columns `idx`. -/
def Design.select (d : Design α n k) (idx : List (Fin k)) : Design α n idx.length where
  columns := Vector.ofFn fun p => d.columns.get (idx.get p)
  target := d.target

/-- The vector of length `k` that is `z` on the columns `idx` and zero
elsewhere. -/
def scatter [Zero α] (idx : List (Fin k)) (z : Vector α idx.length) : Vector α k :=
  Vector.ofFn fun i => ((idx.idxOf? i).bind fun p => z[p]?).getD 0

end ReachMixture.LeastSquares
