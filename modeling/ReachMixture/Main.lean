import Std.Time.Format
import Std.Time.Zoned
import ReachMixture.Random.Ziggurat
import ReachMixture.Session.Basic
import ReachMixture.Session.Volume

/-!
# The program

Reads arguments, environment and clock, asks the session for a reply, and
carries it out: events go to the error stream, reports to the output stream, and
the trajectory to a file.
-/

namespace ReachMixture.Program

open Session

/-- The time in reports, as `YYYY-MM-DD HH:MM:SS`. -/
def clock : IO String := do
  return (← Std.Time.PlainDateTime.now).format "uuuu-MM-dd HH:mm:ss"

/-- How many directories above the current one `readEnvFile` searches. -/
def searchDepth : Nat := 64

/-- The text of `.env` in the current directory, or else in the nearest
directory above it that has one. -/
def readEnvFile : IO (Option String) := do
  for depth in List.range searchDepth do
    try
      return some (← IO.FS.readFile (String.join (List.replicate depth "../") ++ ".env"))
    catch _ => pure ()
  return none

/-- The part of the environment that can matter: `logVariable` and the names
that the environment file mentions. -/
def readEnvironment (envFile : Option String) : IO Environment := do
  let names := logVariable :: (envFile.map EnvFile.mentioned).getD []
  let entries ← names.mapM fun name => do
    return (← IO.getEnv name).map fun value => (name, value)
  return entries.filterMap id

/-- The number that the system gave an error. -/
def errorNumber : IO.Error → Option UInt32
  | .alreadyExists _ n _ | .otherError n _ | .resourceBusy n _ | .resourceVanished n _
  | .unsupportedOperation n _ | .hardwareFault n _ | .unsatisfiedConstraints n _
    | .illegalOperation n _
  | .protocolError n _ | .timeExpired n _ | .interrupted _ n _ | .noFileOrDirectory _ n _
  | .invalidArgument _ n _ | .permissionDenied _ n _ | .resourceExhausted _ n _
    | .inappropriateType _ n _
  | .noSuchThing _ n _ => some n
  | _ => none

/-- The reason of an error: the `message` of the `Refusal` with its number, or
else its own text. -/
def reason (e : IO.Error) : String :=
  match Refusal.all.find? fun r => r.code? == (errorNumber e).map UInt32.toNat with
  | some r => r.message
  | none => toString e

/-- Does `act`; an error becomes `fault` of its `reason`. -/
def attempt {β : Type} (act : IO β) (fault : String → ExportFault) :
    ExceptT ExportFault IO β := do
  match ← (act.toBaseIO : BaseIO (Except IO.Error β)) with
  | .ok b => return b
  | .error e => throw (fault (reason e))

/-- Writes a trajectory to a file, line by line. -/
def exportFile (e : Export Float) : ExceptT ExportFault IO Unit := do
  let file ← attempt (IO.FS.Handle.mk e.path .write) (.create e.path)
  attempt (do file.putStr (csvHeader ++ "\n"); file.flush) .header
  for r in e.records do
    attempt (do file.putStr (r.csvLine ++ "\n"); file.flush) .row

/-- Carries out a report: events, output, export. The result is the exit code. -/
def carryOut (report : Session.Report Float) : IO UInt32 := do
  for e in report.events do
    IO.eprintln (e.level.name ++ " " ++ e.message)
  if let some output := report.output then
    IO.print output.render
  let failure ← match report.result with
    | .error failure => pure (some failure)
    | .ok none => pure none
    | .ok (some e) => do
      match ← (exportFile e).run with
      | .ok _ => pure none
      | .error fault => pure (some (.notExported fault))
  match failure with
  | none => return 0
  | some f =>
    IO.eprintln f.message
    return f.exitCode.toUInt32

/-- How the program is called. -/
def usageText : String :=
  "Usage: adm [--log-level LEVEL] fit|weights [OPTIONS]\n"

end ReachMixture.Program

open ReachMixture in
/-- The program: answers one `Session.Request`. -/
def main (args : List String) : IO UInt32 := do
  let envFile ← Program.readEnvFile
  let request : Session.Request :=
    { args, environment := ← Program.readEnvironment envFile, envFile }
  let time ← Program.clock
  match (Session.respond Random.Generator LeastSquares.floatSolve time
    request : Session.Reply Float) with
  | .usage .version => IO.print Session.versionText; return 0
  | .usage .help => IO.print Program.usageText; return 0
  | .usage u => IO.eprint Program.usageText; return u.exitCode.toUInt32
  | .ran report => Program.carryOut report
