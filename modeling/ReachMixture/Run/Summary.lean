import ReachMixture.Json
import ReachMixture.Run.Pipeline

/-!
# Summaries

The outcome of a fit for other programs: a record of the settings that matter,
the fitted mixture and the trajectory, and its text as a document.
-/

namespace ReachMixture

variable {α : Type}

/-- The outcome of a fit as it is written to JSON. -/
structure Summary (α : Type) where
  /-- The audiences. -/
  rows : Nat
  /-- The identifier types. -/
  dims : Nat
  /-- The steps taken. -/
  steps : Nat
  /-- The seed. -/
  seed : UInt64
  /-- `‖prediction - target‖`. -/
  distance : α
  /-- The weights of the fitted mixture. -/
  weights : List α
  /-- The locations of the fitted mixture. -/
  locations : List (List α)
  /-- The recorded steps. -/
  trajectory : List (StepRecord α)

/-- The summary of a mixture fitted under the settings `c`. The number of
identifier types is that of the mixture. -/
def Summary.of {m : Nat} [Zero α] [LT α] [Scalar α]
    (c : RunConfig α) (mixture : Mixture α m) (distance : α)
    (trajectory : List (StepRecord α)) : Summary α where
  rows := c.rows
  dims := m
  steps := c.maxSteps
  seed := c.seed
  distance := distance
  weights := mixture.weights
  locations := mixture.locations.map Vector.toList
  trajectory := trajectory

/-- A record as a document, its fields in the order of the CSV columns. -/
def StepRecord.toJson (r : StepRecord α) : Json α :=
  .object [("step", .nat r.step), ("components", .nat r.components),
    ("weight_sum", .number r.weightSum), ("residual_norm", .number r.residualNorm)]

/-- A list of numbers as a document. -/
def Json.numbers (xs : List α) : Json α := .list (xs.map .number)

/-- A summary as a document. -/
def Summary.toJson (s : Summary α) : Json α :=
  .object [("rows", .nat s.rows), ("dims", .nat s.dims), ("steps", .nat s.steps),
    ("seed", .nat s.seed.toNat), ("distance", .number s.distance),
    ("weights", .numbers s.weights), ("locations", .list (s.locations.map .numbers)),
    ("trajectory", .list (s.trajectory.map StepRecord.toJson))]

/-- The JSON text of a summary. -/
def Summary.text [NumberText α] (s : Summary α) : String := s.toJson.render 0

end ReachMixture
