import ReachMixture.Fit.Adaptive

/-!
# Trajectories

A trajectory samples a fit every so many steps. The last step is recorded only
if it falls on the grid.

- `StepRecord`: one recorded step.
- `isDue`: after how many steps a record is taken.
- `recordStep`: what comes of a step that may be due. `observeStep` feeds it
  with tables of any shape, `Observations.record` with the snapshots of a fit.
-/

namespace ReachMixture

variable {α : Type}

/-- One recorded step of a fit. -/
structure StepRecord (α : Type) where
  /-- The number of steps before it. -/
  step : Nat
  /-- The components of its mixture. -/
  components : Nat
  /-- `weightSum` of its mixture. -/
  weightSum : α
  /-- `‖prediction - target‖` of its mixture. -/
  residualNorm : α

/-- What comes of recording a step: nothing was due, the step could not be
predicted, or a record. -/
inductive Recording (α : Type) where
  /-- The step is not on the grid of `isDue`. -/
  | notDue
  /-- The step's shapes do not agree with each other or with the signal. -/
  | skipped (fault : Fault α)
  /-- The step is recorded. -/
  | recorded (r : StepRecord α)

/-- Whether a record is taken after `done` steps: `every` divides `done`. None
is taken if `every = 0`. -/
def isDue (every done : Nat) : Bool := every != 0 && done % every == 0

section

variable [Zero α] [Add α] [Sub α] [Mul α] [Neg α] [Scalar α]

/-- What comes of step `step`, after which `done` steps are done. Only if a
record is due is `residual` measured. A step that cannot be predicted is
`skipped`; an aborted measurement aborts the recording. -/
def recordStep (every step done : Nat) (weights : List α)
    (residual : Thunk (Except (Fault α) α)) : Except (Fault α) (Recording α) :=
  if isDue every done then
    match residual.get with
    | .error (.aborted cause) => .error (.aborted cause)
    | .error fault => .ok (.skipped fault)
    | .ok residual => .ok (.recorded
      { step := step
        components := weights.length
        weightSum := weightSum weights
        residualNorm := residual })
  else .ok .notDue

/-- `recordStep` for weights at the rows of a table. The steps done are counted
in 64 bits, so that step `2^64 - 1` is followed by a count of zero. -/
def observeStep (signal : Table α) (target : List α) (every : Nat) (step : UInt64)
    (weights : List α) (locations : Table α) : Except (Fault α) (Recording α) :=
  recordStep every step.toNat (step + 1).toNat weights
    (measureTable weights locations signal target)

/-- `recordStep` for a step of a fit. -/
def Observations.record [LT α] (o : Observations α) (every : Nat)
    (s : Snapshot α o.dims) :
    Except (Fault α) (Recording α) :=
  recordStep every s.step (s.step + 1) s.mixture.weights (o.measure s.mixture.components)

end

end ReachMixture
