import ReachMixture.Mixture.Reach
import ReachMixture.Mixture.Text
import ReachMixture.Run.Config
import ReachMixture.Text.Pad

/-!
# The fit report

The settings of a run, the true and the fitted mixture, heaviest components
first, and how far the fit is from the target.
-/

namespace ReachMixture.Report

open Text

variable {α : Type} {m k : Nat} [NumberText α]

/-- Components with the heaviest first. The sort is stable, so equal or
incomparable weights keep their order. -/
def byWeight [LT α] [DecidableLT α] (components : List (Component α m)) :
    List (Component α m) :=
  components.mergeSort fun a b => !decide (a.weight < b.weight)

/-- A component on a line of its own, its weight in a column of width 8. -/
def componentLine (c : Component α m) : String :=
  "  " ++ padLeft 8 (NumberText.fixed 4 c.weight) ++ " * Delta(" ++
    locationText 4 c.location ++ ")"

/-- One `componentLine` per component, heaviest first. -/
def componentLines [Zero α] [LT α] [DecidableLT α] [Scalar α]
    (x : Mixture α m) : List String :=
  if x.isEmpty then ["  (none)"] else (byWeight x.components).map componentLine

/-- The report of a fit. `time` stands in the line that tells when it was made. -/
def fitLines [Zero α] [LT α] [DecidableLT α] [Scalar α] [Add α] [Neg α] (time : String)
    (c : RunConfig α) (truth : Mixture α m) (fitted : Mixture α k)
    (distance : α) : List String :=
  ["=== adm - Adaptive Dirac Mixture fit ===",
    "Generated: " ++ time,
    "Problem: rows=" ++ toString c.rows ++ " | dims=" ++ toString m ++ " | seed=" ++
      toString c.seed.toNat, "Search: steps=" ++ toString c.maxSteps ++
      " | new centers/step=" ++ toString c.newCenters ++ " | sigma=" ++ NumberText.plain
      c.sigma ++ " | nnls max iter=" ++ toString c.solverCap, "", "Truth:"]
  ++ componentLines truth
  ++ ["", "Fitted (" ++ toString fitted.size ++ " components):"]
  ++ componentLines fitted
  ++ ["",
    "Distance to target: " ++ NumberText.fixed 6 distance,
    "Weight mass: truth=" ++ NumberText.fixed 4 truth.totalWeight ++ " fitted="
      ++ NumberText.fixed 4 fitted.totalWeight]

end ReachMixture.Report
