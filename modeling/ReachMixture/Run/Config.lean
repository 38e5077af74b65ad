import ReachMixture.Fit.Config

/-!
# Run settings

A run makes up a problem with a known answer and then fits it. The settings name
the mixture that generates the target, the size of the problem, how the fit
searches and what is reported.
-/

namespace ReachMixture

variable {α : Type}

/-- The settings of a run: how to make up a problem, how to fit it, and what to
report. -/
structure RunConfig (α : Type) where
  /-- The audiences to make up. -/
  rows : Nat
  /-- The seed of the problem and of the candidate draws. -/
  seed : UInt64
  /-- The locations of the mixture that generates the target. -/
  truthLocations : List (List α)
  /-- The weights of the mixture that generates the target. -/
  truthWeights : List α
  /-- Candidates proposed per step. -/
  newCenters : Nat
  /-- Standard deviation of the noise around existing locations. -/
  sigma : α
  /-- The steps to take. -/
  maxSteps : Nat
  /-- The iteration cap of the solver. -/
  solverCap : Nat
  /-- Every how many steps a record is taken; `0` takes none. -/
  traceEvery : Nat
  /-- Where the trajectory is written to. -/
  exportTrajectory : Option String
  /-- Report a document instead of text. -/
  json : Bool

namespace RunConfig

/-- The usual run: a thousand audiences with two identifier types, generated by
three locations, and the fit settings of `FitConfig.usual`. -/
def usual [One α] [Div α] [NatCast α] : RunConfig α :=
  let tenths (n : Nat) : α := (n : α) / ((10 : Nat) : α)
  let fit : FitConfig α := .usual
  { rows := 1000
    seed := 42
    truthLocations := [[tenths 15, tenths 5], [tenths 5, tenths 15],
      [tenths 8, tenths 12]]
    truthWeights := [tenths 2, tenths 3, tenths 5]
    newCenters := fit.newCenters
    sigma := fit.sigma
    maxSteps := fit.maxSteps
    solverCap := fit.solverCap
    traceEvery := 0
    exportTrajectory := none
    json := false }

/-- The part of the settings that is the fit's. The same seed serves the problem
and the candidates. -/
def fitConfig (c : RunConfig α) : FitConfig α where
  newCenters := c.newCenters
  sigma := c.sigma
  maxSteps := c.maxSteps
  initialLocations := none
  seed := c.seed
  solverCap := c.solverCap

end RunConfig

end ReachMixture
