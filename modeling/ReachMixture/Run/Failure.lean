import ReachMixture.Fault
import ReachMixture.Text.Quoted

/-!
# Failures of a run

Why a run ends without a report. A failure has a wording for people and an exit
code for other programs.
-/

namespace ReachMixture

/-- Why the settings describe no problem. -/
inductive ProblemFault where
  /-- No audiences are asked for. -/
  | noRows
  /-- There is no location to generate the target. -/
  | noLocations
  /-- The first location has no coordinates. -/
  | noCoordinates
  /-- A location has another number of coordinates than the first. -/
  | unevenLocations (expected found : Nat)
deriving DecidableEq

/-- Why an export failed, with the reason of the file system. -/
inductive ExportFault where
  /-- The file cannot be opened for writing. -/
  | create (path reason : String)
  /-- The header cannot be written. -/
  | header (reason : String)
  /-- A record cannot be written. -/
  | row (reason : String)
deriving DecidableEq

/-- Why a run ends without a report. -/
inductive Failure (α : Type) where
  /-- The settings describe no problem. -/
  | problem (fault : ProblemFault)
  /-- The library refuses the problem. -/
  | refused (fault : Fault α)
  /-- Arguments name another number of weights than of locations. -/
  | weightCount (weights locations : Nat)
  /-- The trajectory cannot be exported. -/
  | notExported (fault : ExportFault)
deriving DecidableEq

/-- The wording of a `ProblemFault`. -/
def ProblemFault.message : ProblemFault → String
  | .noRows => "Row count must be > 0."
  | .noLocations => "At least one --location is required."
  | .noCoordinates => "Locations must have at least one coordinate."
  | .unevenLocations expected found =>
    "All locations must have " ++ toString expected ++ " coordinates; got " ++
      toString found ++ "."

/-- The wording of an `ExportFault`. -/
def ExportFault.message : ExportFault → String
  | .create path reason => "Failed to create trajectory CSV '" ++ path ++ "': " ++ reason
  | .header reason => "Failed to write trajectory CSV header: " ++ reason
  | .row reason => "Failed to write trajectory CSV row: " ++ reason

namespace Failure

variable {α : Type}

/-- The wording of a failure. -/
def message [NumberText α] : Failure α → String
  | .problem fault => fault.message
  | .refused fault => fault.message
  | .weightCount weights locations =>
    "Got " ++ toString weights ++ " weights for " ++ toString locations ++ " locations."
  | .notExported fault => fault.message

/-- The exit code of a failure: `101` for an aborted computation, `2` for every
refusal. -/
def exitCode : Failure α → UInt8
  | .refused (.aborted _) => 101
  | _ => 2

end Failure

/-- What a failed program leaves behind: an exit code and a message. -/
structure Diagnosis where
  /-- The exit code. -/
  exitCode : UInt8
  /-- The message. -/
  message : String

/-- The exit code and the wording of a failure. -/
def Failure.diagnosis {α : Type} [NumberText α] (f : Failure α) : Diagnosis :=
  ⟨f.exitCode, f.message⟩

/-- A diagnosis with its parts named, the message `Text.quoted`. -/
def Diagnosis.details (d : Diagnosis) : String :=
  "AppError \x7b exit_code: " ++ toString d.exitCode.toNat ++ ", message: " ++
    Text.quoted d.message ++ " \x7d"

/-- A library fault as a failure of the run. -/
def refusedBy {α β : Type} (r : Except (Fault α) β) : Except (Failure α) β :=
  r.mapError .refused

end ReachMixture
