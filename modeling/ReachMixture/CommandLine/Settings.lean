import ReachMixture.CommandLine.Reading
import ReachMixture.Run.Config
import ReachMixture.Run.Failure

/-!
# From arguments to settings

Arguments that are left out take the values of the usual run. Locations without
weights are weighted equally; weights must match the locations in number.
-/

namespace ReachMixture.CommandLine

variable {α : Type} [One α] [Div α] [NatCast α]

/-- The locations of the arguments, or else those of `RunConfig.usual`. -/
def ProblemArgs.truthLocations (args : ProblemArgs α) : List (List α) :=
  if args.locations.isEmpty then RunConfig.usual.truthLocations else args.locations

/-- The weights of the arguments. Without any, they are those of
`RunConfig.usual` for the usual locations, and `1 / n` each for `n` others. -/
def ProblemArgs.truthWeights (args : ProblemArgs α) : List α :=
  if !args.weights.isEmpty then args.weights
  else if args.locations.isEmpty then RunConfig.usual.truthWeights
  else List.replicate args.locations.length (1 / (args.locations.length : α))

/-- The settings of a solve for weights; `weightCount` if weights and locations
differ in number. -/
def ProblemArgs.settings (args : ProblemArgs α) : Except (Failure α) (RunConfig α) :=
  if args.truthWeights.length = args.truthLocations.length then
    .ok { RunConfig.usual with
      rows := args.rows
      seed := args.seed
      truthLocations := args.truthLocations
      truthWeights := args.truthWeights
      solverCap := args.solverCap }
  else .error (.weightCount args.truthWeights.length args.truthLocations.length)

/-- The settings of a fit: those of its problem, and then its own. -/
def FitArgs.settings (args : FitArgs α) : Except (Failure α) (RunConfig α) :=
  args.problem.settings.map fun base =>
    { base with
      newCenters := args.newCenters
      sigma := args.sigma
      maxSteps := args.maxSteps
      traceEvery := args.traceEvery
      exportTrajectory := args.exportTrajectory
      json := args.json }

end ReachMixture.CommandLine
