import ReachMixture.Fit.Candidates
import ReachMixture.LeastSquares.Solver

/-!
# Fit settings

How an adaptive fit searches, and where it starts.
-/

namespace ReachMixture

variable {α : Type}

/-- The settings of an adaptive fit. -/
structure FitConfig (α : Type) where
  /-- Candidates proposed per step, before the invalid ones are dropped. -/
  newCenters : Nat
  /-- Standard deviation `σ` of the noise around existing locations. -/
  sigma : α
  /-- The steps to take. -/
  maxSteps : Nat
  /-- Starting locations, equally weighted; `none` starts at a single location
  of ones. -/
  initialLocations : Option (Table α)
  /-- The seed of the candidate draws. -/
  seed : UInt64
  /-- The iteration cap of the solver. -/
  solverCap : Nat

namespace FitConfig

/-- The usual search: ten candidates per step, `σ = 1 / 100`, a thousand steps. -/
def usual [One α] [Div α] [NatCast α] : FitConfig α where
  newCenters := 10
  sigma := 1 / ((100 : Nat) : α)
  maxSteps := 1000
  initialLocations := none
  seed := 0
  solverCap := LeastSquares.defaultCap

/-- Refuses settings that are out of range. The first failing check, in this
order, names the fault. -/
def validate [Zero α] [LT α] [DecidableLT α] [Scalar α] (c : FitConfig α) :
    Except (Fault α) Unit :=
  if c.newCenters = 0 then .error .noNewCenters
  else if !isWidth c.sigma then .error (.badSigma c.sigma)
  else if c.maxSteps = 0 then .error .noSteps
  else if c.solverCap = 0 then .error .noSolverIterations
  else .ok ()

/-- Whether a fit can start at a location: its coordinates are finite, and their
sum is not `≤ 0`. -/
def isStart [Zero α] [Add α] [LE α] [DecidableLE α] [Scalar α]
    (location : List α) : Bool :=
  location.all Scalar.isFinite && !decide (location.foldl (· + ·) 0 ≤ 0)

/-- The starting locations for `dims` identifier types. The default location is
a block of `dims` numbers. -/
def start [One α] (c : FitConfig α) (dims : Nat) : Except (Fault α) (Table α) :=
  match c.initialLocations with
  | some t => .ok t
  | none => do
    Capacity.reserve dims
    return .fill 1 dims 1

/-- The starting mixture for `dims` identifier types: weight `1 / rows` at each
row of `start`, once their columns, their number and every `isStart` have been
checked. -/
def initialMixture [Zero α] [One α] [Add α] [Div α] [LT α] [LE α] [DecidableLT α]
    [DecidableLE α] [NatCast α] [Scalar α] (c : FitConfig α) (dims : Nat) :
    Except (Fault α) (Mixture α dims) := do
  let t ← c.start dims
  if h : t.cols = dims then
    if t.rows = 0 then .error .noInitialLocations
    else match t.findRow? fun l => !isStart l.toList with
      | some index => .error (.badInitialLocation index)
      | none =>
        Mixture.ofComponents ((t.vectorsOf h).toList.map fun l => ⟨1 / (t.rows : α), l⟩)
  else .error (.shapeMismatch .initialLocationColumns dims t.cols)

end FitConfig

end ReachMixture
