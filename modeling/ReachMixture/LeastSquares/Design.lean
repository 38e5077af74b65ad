import ReachMixture.Linear.Vec

/-!
# Least squares problems

A `Design` asks for coefficients `x` that bring `A x` close to a target, where
`A` is given by its columns.

- `Design.predict`, `Design.residual`: `A x` and its distance from the target.
- `Normal`, `Design.normal`: the normal equations `AᵀA x = Aᵀb`, formed once per
  problem.
- `Normal.gradient`: `Aᵀ(b - A x)`, read off the normal equations.
- `Design.tolerance`: the gradient below which a column is not worth admitting.
-/

namespace ReachMixture.LeastSquares

variable {α : Type} {n k : Nat}

/-- A least-squares problem `min ‖A x - b‖` with `n` observations and `k`
columns. -/
structure Design (α : Type) (n k : Nat) where
  /-- The columns of the matrix `A`. -/
  columns : Vector (Vector α n) k
  /-- The right-hand side `b`. -/
  target : Vector α n

/-- The normal equations `(AᵀA) x = Aᵀb` of a problem with `k` columns. -/
structure Normal (α : Type) (k : Nat) where
  /-- `AᵀA`: the inner products of the columns with each other. -/
  gram : Vector (Vector α k) k
  /-- `Aᵀb`: the inner products of the columns with the target. -/
  correlation : Vector α k

/-- The descent direction `Aᵀ(b - A x)`, computed as `Aᵀb - (AᵀA) x`. -/
def Normal.gradient [Zero α] [Add α] [Sub α] [Mul α] (e : Normal α k)
    (x : Vector α k) : Vector α k :=
  Vector.ofFn fun i => e.correlation.get i - Vec.dot (e.gram.get i) x

namespace Design

/-- The normal equations of a problem, one inner product per entry. -/
def normal [Zero α] [Add α] [Mul α] (d : Design α n k) : Normal α k where
  gram := d.columns.map fun u => d.columns.map fun v => Vec.dot u v
  correlation := d.columns.map fun u => Vec.dot u d.target

/-- `A x`: the combination of the columns with coefficients `x`. -/
def predict [Zero α] [Add α] [Mul α] (d : Design α n k) (x : Vector α k) : Vector α n :=
  Vector.ofFn fun row => Vec.sum k fun j => (d.columns.get j).get row * x.get j

/-- The residual norm `‖A x - b‖`. -/
def residual [Zero α] [Add α] [Sub α] [Mul α] [Scalar α] (d : Design α n k)
    (x : Vector α k) : α :=
  Vec.distance (d.predict x) d.target

/-- The largest column sum `∑ |A i j|` over the columns `j`; undefined sums do
not count. -/
def columnScale [Zero α] [Add α] [Sub α] [LT α] [LE α] [DecidableLT α] [DecidableLE α]
    (d : Design α n k) : α :=
  d.columns.foldl (fun m c => Vec.larger m (Vec.norm₁ c)) 0

/-- `10 ε · columnScale · max n k`: gradients up to this size are taken for
rounding errors. -/
def tolerance [Zero α] [Add α] [Sub α] [Mul α] [LT α] [LE α] [DecidableLT α]
    [DecidableLE α] [NatCast α] [Scalar α] (d : Design α n k) : α :=
  ((10 : Nat) : α) * Scalar.epsilon * d.columnScale * ((max n k : Nat) : α)

end Design

end ReachMixture.LeastSquares
