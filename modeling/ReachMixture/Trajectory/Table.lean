import ReachMixture.Text.Lines
import ReachMixture.Text.Pad
import ReachMixture.Trajectory.Record

/-!
# Trajectories as text

A recorded trajectory as a table for people and as comma-separated values for
other programs.

- `trajectoryTable`: the table; nothing for an empty trajectory.
- `csvLines`, `csvText`: a header and a line per record, every line ended by a
  newline.
-/

namespace ReachMixture

open Text

variable {α : Type} [NumberText α]

/-- A record as a line of the table, in columns of widths 8, 10, 12 and 14. -/
def StepRecord.tableLine (r : StepRecord α) : String :=
  padLeft 8 (toString r.step) ++ " " ++ padLeft 10 (toString r.components) ++ " "
    ++ padLeft 12 (NumberText.fixed 4 r.weightSum) ++ " " ++
      padLeft 14 (NumberText.fixed 6 r.residualNorm)

/-- The headings of the table and the rule below them. -/
def trajectoryHeading : List String :=
  [padLeft 8 "step" ++ " " ++ padLeft 10 "components" ++ " " ++
    padLeft 12 "weight_sum" ++ " " ++ padLeft 14 "residual",
    rule 8 ++ " " ++ rule 10 ++ " " ++ rule 12 ++ " " ++ rule 14]

/-- The table of a trajectory; the empty text without records. -/
def trajectoryTable (records : List (StepRecord α)) : String :=
  if records.isEmpty then ""
  else unlines ("Trajectory:" :: trajectoryHeading ++ records.map StepRecord.tableLine)

/-- The header line of the CSV text. -/
def csvHeader : String := "step,components,weight_sum,residual_norm"

/-- A record as a line of comma-separated values, the two numbers with ten
places. -/
def StepRecord.csvLine (r : StepRecord α) : String :=
  String.intercalate "," [toString r.step, toString r.components,
    NumberText.fixed 10 r.weightSum, NumberText.fixed 10 r.residualNorm]

/-- `csvHeader` and one `csvLine` per record. -/
def csvLines (records : List (StepRecord α)) : List String :=
  csvHeader :: records.map StepRecord.csvLine

/-- A trajectory as CSV text, every line ended by a newline. -/
def csvText (records : List (StepRecord α)) : String := unlines (csvLines records)

end ReachMixture
