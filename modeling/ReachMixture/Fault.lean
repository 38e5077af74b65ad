import ReachMixture.NumberText

/-!
# Faults

Why the library refuses an input. Shapes, weights and settings are checked where
data enters the library, and each cause is a constructor of `Fault`;
`Fault.message` has the only wording. Numerical imperfection is no fault. Beside
the refusals stand the *aborts*: computations that have no meaning on their
input and end the whole run.
-/

namespace ReachMixture

/-- The part of an input whose size disagrees with another part, as named in a
`shapeMismatch`. -/
inductive Part where
  /-- Weights, one per location. -/
  | mixtureWeights
  /-- Coordinates of the locations, one per column of the signal. -/
  | locationColumns
  /-- Target values, one per row of the signal. -/
  | targetLength
  /-- Coordinates of the initial locations. -/
  | initialLocationColumns
  /-- Weights given to the sampler, one per location. -/
  | samplerWeights
  /-- Coefficients returned by a solver, one per pooled location. -/
  | solverOutput
deriving DecidableEq

/-- The name of a part in a `message`. -/
def Part.name : Part → String
  | .mixtureWeights => "mixture weights"
  | .locationColumns => "location columns"
  | .targetLength => "target length"
  | .initialLocationColumns => "initial location columns"
  | .samplerWeights => "sampler weights"
  | .solverOutput => "solver output"

/-- Causes that end a run without a refusal: a computation has no meaning, or
its result cannot be kept. -/
inductive Abort where
  /-- Matrices of incompatible shapes were combined. -/
  | dimensionMismatch
  /-- A matrix without entries was decomposed. -/
  | emptyMatrix
  /-- Sampling weights do not have a finite sum. -/
  | unboundedWeights
  /-- A block of `Capacity.entries` numbers or `Capacity.rows` rows was asked
  for. -/
  | overCapacity
deriving DecidableEq

/-- Why an input is refused, with the values that the `message` quotes. -/
inductive Fault (α : Type) where
  /-- Two parts disagree on a size. -/
  | shapeMismatch (part : Part) (expected found : Nat)
  /-- A weight is negative, infinite or undefined. -/
  | badWeight (index : Nat) (weight : α)
  /-- A sampling weight is negative or undefined. -/
  | badSamplingWeight
  /-- No candidates would be proposed. -/
  | noNewCenters
  /-- The width of the jitter is not positive and finite. -/
  | badSigma (sigma : α)
  /-- No steps would be taken. -/
  | noSteps
  /-- The solver would not be allowed to do anything. -/
  | noSolverIterations
  /-- There is nowhere to start. -/
  | noInitialLocations
  /-- An initial location is not finite or its coordinates do not have a
  positive sum. -/
  | badInitialLocation (index : Nat)
  /-- The width given to the sampler is not positive and finite. -/
  | badSamplingSigma (sigma : α)
  /-- The signal has no rows or no columns. -/
  | emptySignal
  /-- The computation stopped on `cause`. -/
  | aborted (cause : Abort)
deriving DecidableEq

/-- The kinds of faults, by which failures get their exit codes. -/
inductive Fault.Kind where
  /-- Sizes disagree. -/
  | shape
  /-- Weights are out of range. -/
  | weights
  /-- Settings are out of range. -/
  | settings
  /-- There is no signal. -/
  | signal
  /-- The run is over. -/
  | abort
deriving DecidableEq

namespace Fault

variable {α : Type}

/-- The kind of a fault. It does not depend on the values the fault carries. -/
def kind : Fault α → Kind
  | .shapeMismatch .. => .shape
  | .badWeight .. | .badSamplingWeight => .weights
  | .noNewCenters | .badSigma _ | .noSteps | .noSolverIterations | .noInitialLocations
  | .badInitialLocation _ | .badSamplingSigma _ => .settings
  | .emptySignal => .signal
  | .aborted _ => .abort

/-- The wording of a fault. -/
def message [NumberText α] : Fault α → String
  | .shapeMismatch part expected found =>
    "shape mismatch for " ++ part.name ++ ": expected " ++ toString expected ++
      ", found " ++ toString found
  | .badWeight index weight =>
    "invalid weights: weight " ++ toString index ++ " is " ++ NumberText.plain weight
      ++ "; weights must be finite and nonnegative"
  | .badSamplingWeight => "invalid weights: A weight is invalid in distribution"
  | .noNewCenters => "invalid configuration: new_centers_at_each_step must be > 0"
  | .badSigma sigma =>
    "invalid configuration: new_centers_sigma must be finite and > 0, got " ++
      NumberText.plain sigma
  | .noSteps => "invalid configuration: max_steps must be > 0"
  | .noSolverIterations => "invalid configuration: solver_max_iter must be > 0"
  | .noInitialLocations =>
    "invalid configuration: initial_locations must have at least one row"
  | .badInitialLocation index =>
    "invalid configuration: initial location " ++ toString index
      ++ " must be finite with a positive coordinate sum"
  | .badSamplingSigma sigma =>
    "invalid configuration: sampling sigma must be finite and > 0, got " ++
      NumberText.plain sigma
  | .emptySignal => "signal must have at least one row and one column"
  | .aborted .dimensionMismatch => "matrix dimensions do not agree"
  | .aborted .emptyMatrix => "a matrix without entries has no decomposition"
  | .aborted .unboundedWeights => "sampling weights do not have a finite sum"
  | .aborted .overCapacity => "more was asked for than can be kept in memory"

end Fault

end ReachMixture
