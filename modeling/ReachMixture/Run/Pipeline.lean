import ReachMixture.Run.Event
import ReachMixture.Run.Problem
import ReachMixture.Trajectory.Record

/-!
# Runs

From settings to results: make up the problem, fit it, and measure how far the
fit is from the target.

- `runFit`: an adaptive fit with its trajectory.
- `runWeights`: the weights of the true locations.
-/

namespace ReachMixture

variable {α : Type}

/-- The results of an adaptive fit. -/
structure FitRun (α : Type) [Zero α] [LT α] [Scalar α] where
  /-- The problem. -/
  problem : Problem α
  /-- The fitted mixture. -/
  fitted : Mixture α problem.observations.dims
  /-- `‖prediction - target‖` of the fitted mixture. -/
  distance : α
  /-- The recorded steps, first to last. -/
  trajectory : List (StepRecord α)

/-- The results of a solve for the weights of the true locations. -/
structure WeightsRun (α : Type) [Zero α] [LT α] [Scalar α] where
  /-- The problem. -/
  problem : Problem α
  /-- One weight per true location, as the solver found them. -/
  recovered : List α
  /-- `‖prediction - target‖` of the recovered weights. -/
  distance : α

/-- What the observer of a run keeps of a fit, latest first. -/
structure Notes (α : Type) where
  /-- The records. -/
  records : List (StepRecord α)
  /-- The events. -/
  events : List Event
  /-- Why recording was aborted, if it was. -/
  fault : Option (Fault α)

/-- The notes before the first step. -/
def Notes.empty : Notes α := ⟨[], [], none⟩

section

variable [Zero α] [One α] [Add α] [Sub α] [Mul α] [Div α] [Neg α] [LT α]
  [LE α] [DecidableLT α]
variable [DecidableLE α] [NatCast α] [Scalar α]

/-- Notes down a step: its events, and its record if `Observations.record` takes
one. Nothing is noted any more once recording has been aborted. -/
def Notes.add (o : Observations α) (every : Nat) (notes : Notes α)
    (s : Snapshot α o.dims) :
    Notes α :=
  if notes.fault.isSome then notes
  else
    let events := if s.converged then notes.events else .solverStopped :: notes.events
    let events := .stepTaken s.step s.mixture.size :: events
    match o.record every s with
    | .error fault => { notes with events, fault := some fault }
    | .ok .notDue => { notes with events }
    | .ok (.skipped _) => { notes with events := .recordSkipped s.step :: events }
    | .ok (.recorded r) =>
      { notes with
        records := r :: notes.records
        events := .progress s.step s.mixture.size :: events }

/-- Makes up the problem of the settings, fits it with `standardFit`, and
measures the result. A fault of the recording goes before one of the fit. -/
def runFit (γ : Type) [RandomSource γ α] (inner : LeastSquares.PassiveSolve α)
    (c : RunConfig α) : Logged (Failure α) (FitRun α) :=
  match Problem.generate γ c with
  | .error failure => ⟨[], .error failure⟩
  | .ok problem =>
    let o := problem.observations
    let outcome := standardFit γ inner o c.fitConfig (Notes.add o c.traceEvery) .empty
    let events := .fitStarted c.rows o.dims c.maxSteps :: outcome.observed.events.reverse
    match outcome.observed.fault, outcome.result with
    | some fault, _ => ⟨events, .error (.refused fault)⟩
    | none, .error fault => ⟨events, .error (.refused fault)⟩
    | none, .ok fitted =>
      let warning := if 0 < outcome.cappedSteps
        then [.capReached outcome.cappedSteps] else []
      ⟨events ++ warning ++ [.fitFinished fitted.size], refusedBy do
        let distance ← o.measure fitted.components
        return { problem, fitted, distance,
                 trajectory := outcome.observed.records.reverse }⟩

/-- Makes up the problem of the settings and solves for the weights of its true
locations. -/
def runWeights (γ : Type) [RandomSource γ α] (inner : LeastSquares.PassiveSolve α)
    (c : RunConfig α) : Logged (Failure α) (WeightsRun α) :=
  match Problem.generate γ c with
  | .error failure => ⟨[], .error failure⟩
  | .ok problem =>
    let o := problem.observations
    let locations := problem.truth.locations
    match o.solveWeights (LeastSquares.activeSet inner c.solverCap) locations.length
        (Vec.ofList locations rfl) with
    | .error fault => ⟨[], .error (.refused fault)⟩
    | .ok solution =>
      let stopped := if solution.converged then [] else [.solverStopped]
      ⟨stopped ++ [.weightsSolved solution.coefficients.length], refusedBy do
        let components ← Component.zip .mixtureWeights solution.coefficients locations
        let distance ← o.measure components
        return { problem, recovered := solution.coefficients, distance }⟩

end

end ReachMixture
