import ReachMixture.Run.Failure
import ReachMixture.Session.Volume
import ReachMixture.Trajectory.Table

/-!
# Exports

A trajectory is written in two stages: the header first, then the records. Each
stage has its own wording for a refusal. Nothing is written where there are no
records.
-/

namespace ReachMixture.Session

variable {α : Type} [NumberText α]

/-- Writes one `csvLine` per record to the file at `t`. -/
def writeRows (v : Volume) (t : Trail) (records : List (StepRecord α)) :
    Except ExportFault Volume :=
  if records.isEmpty then .ok v
  else
    (v.write t (String.join (records.map fun r => r.csvLine ++ "\n"))).mapError
      fun refusal => .row refusal.message

/-- Writes a trajectory to `path`: creates the file, writes `csvHeader`, then
the records. The first refusal names the fault. -/
def exportTrajectory (v : Volume) (path : String) (records : List (StepRecord α)) :
    Except ExportFault Volume :=
  match v.create path with
  | .error refusal => .error (.create path refusal.message)
  | .ok (v, t) =>
    match v.write t (csvHeader ++ "\n") with
    | .error refusal => .error (.header refusal.message)
    | .ok v => writeRows v t records

end ReachMixture.Session
