import ReachMixture.Capacity
import ReachMixture.LeastSquares.Design
import ReachMixture.Mixture.Basic

/-!
# Reach

A location `d` reaches an audience with identifier counts `s` with probability
`1 - exp (-⟨d, s⟩)`, the coverage of a Poisson exposure process with that rate.
A mixture predicts the weighted sum of the reaches of its locations. The same
prediction makes targets from a known mixture and tests a fitted one.

- `partialReach`, `reachRow`: the reach of a location on one audience and on all
  of them.
- `predict`: the prediction of weighted locations.
- `Component.evaluate`: the same, once the blocks it takes have been asked for.
  Every prediction of the library is made by it: `predictTable` and
  `Mixture.evaluateTable` for tables, `Mixture.evaluate` for vectors.
- `design`: the least squares problem for the weights of given locations.
-/

namespace ReachMixture

variable {α : Type} {n m : Nat}

/-- `weights` added up, first to last. The sum starts at `-0`, which leaves
every number that is added to it unchanged. -/
def weightSum [Zero α] [Add α] [Neg α] (weights : List α) : α :=
  weights.foldl (· + ·) (-0)

section Curve

variable [Zero α] [Add α] [Mul α] [Neg α] [Scalar α]

/-- The reach `1 - exp (-x)` at rate `x`, through `expm1` so that small rates do
not cancel. -/
def partialReach (x : α) : α := -(Scalar.expm1 (-x))

/-- The reach `partialReach (location · s)` of one location on every audience
`s` of a signal. -/
def reachRow (signal : Vector (Vector α m) n) (location : Vector α m) : Vector α n :=
  signal.map fun s => partialReach (Vec.dot location s)

/-- The predicted reach `∑ j, w j * partialReach (x j · s)` on every audience
`s`, with the components added first to last. The weights may be any numbers
here. -/
def predict (components : List (Component α m))
    (signal : Vector (Vector α m) n) : Vector α n :=
  signal.map fun s =>
    components.foldl (fun acc c => acc + c.weight * partialReach (Vec.dot c.location s)) 0

/-- The least-squares problem for the weights of `locations`: column `j` is the
`reachRow` of location `j`, and the right-hand side is `target`. -/
def design (signal : Vector (Vector α m) n) (target : Vector α n)
    (locations : List (Vector α m)) :
    LeastSquares.Design α n locations.length where
  columns := Vec.ofList (locations.map (reachRow signal)) (List.length_map _)
  target := target

/-- The table of `reachRow`s, one row per location, in a block of
`locations.rows * signal.rows` numbers. Tables with different `cols` abort with
`dimensionMismatch`. -/
def reachTable (signal locations : Table α) : Except (Fault α) (Table α) :=
  if h : signal.cols = locations.cols then do
    Capacity.reserve (locations.rows * signal.rows)
    return ⟨locations.rows, signal.rows, fun i =>
      reachRow (signal.vectorsOf h) (locations.row i)⟩
  else .error (.aborted .dimensionMismatch)

/-- `predict` with the blocks it takes: `components.length * n` numbers for the
reach of every location on every audience, then `n` for the sums. The `signal`
is a thunk, so that audiences are not listed before there is room. -/
def Component.evaluate (components : List (Component α m))
    (signal : Thunk (Vector (Vector α m) n)) : Except (Fault α) (Vector α n) := do
  Capacity.reserve (components.length * n)
  Capacity.reserve n
  return predict components signal.get

/-- `Component.evaluate` of `weights` at the rows of `locations` on the rows of
`signal`. The number of weights is compared before the columns. -/
def predictTable (weights : List α) (locations signal : Table α) :
    Except (Fault α) (Vector α signal.rows) := do
  let components ← Component.zipTable .mixtureWeights weights locations
  if h : signal.cols = locations.cols
    then Component.evaluate components (signal.vectorsOf h)
  else .error (.shapeMismatch .locationColumns signal.cols locations.cols)

end Curve

namespace Mixture

variable [Zero α] [LT α] [Scalar α]

/-- The total weight `weightSum x.weights`. -/
def totalWeight [Add α] [Neg α] (x : Mixture α m) : α := weightSum x.weights

variable [Add α] [Mul α] [Neg α]

/-- `Component.evaluate` of the components of a mixture. -/
def evaluate (x : Mixture α m) (signal : Thunk (Vector (Vector α m) n)) :
    Except (Fault α) (Vector α n) :=
  Component.evaluate x.components signal

/-- `evaluate` on the rows of a table; `shapeMismatch` if its `cols` is not `m`. -/
def evaluateTable (x : Mixture α m) (signal : Table α) :
    Except (Fault α) (Vector α signal.rows) :=
  if h : signal.cols = m then x.evaluate (signal.vectorsOf h)
  else .error (.shapeMismatch .locationColumns signal.cols m)

end Mixture

end ReachMixture
