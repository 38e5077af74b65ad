import ReachMixture.Linear.Vec
import ReachMixture.Mixture.Text
import ReachMixture.Text.Pad

/-!
# The weights report

True and recovered weights of fixed locations, side by side.
-/

namespace ReachMixture.Report

open Text

variable {α : Type} {m : Nat} [NumberText α]

/-- The headings and the rule below them. -/
def weightsHeading : List String :=
  [padRight 32 "location" ++ " " ++ padLeft 10 "true" ++
    " " ++ padLeft 10 "fitted" ++ " " ++ padLeft 10 "error",
    rule 32 ++ " " ++ rule 10 ++ " " ++ rule 10 ++ " " ++ rule 10]

/-- A location, cut to 32 characters, with its true and its recovered weight and
the size `|recovered - weight|` of the error. -/
def weightLine [Zero α] [Sub α] [LE α] [DecidableLE α] (c : Component α m)
    (recovered : α) : String :=
  padRight 32 (cut 32 (locationText 4 c.location)) ++ " " ++ padLeft 10
    (NumberText.fixed 4 c.weight) ++ " " ++ padLeft 10 (NumberText.fixed 4 recovered) ++
    " " ++ padLeft 10 (NumberText.scientific 2 (Vec.magnitude (recovered - c.weight)))

/-- The report of a solve for weights: one `weightLine` per true location. -/
def weightsLines [Zero α] [Sub α] [LT α] [LE α] [DecidableLE α] [Scalar α]
    (truth : Mixture α m) (recovered : List α) (distance : α) : List String :=
  "=== adm - weights for fixed locations ===" :: weightsHeading
  ++ List.zipWith weightLine truth.components recovered
  ++ ["", "Distance to target: " ++ NumberText.fixed 6 distance]

end ReachMixture.Report
