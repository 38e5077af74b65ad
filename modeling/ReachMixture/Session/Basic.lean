import ReachMixture.CommandLine.Settings
import ReachMixture.Report.Fit
import ReachMixture.Report.Weights
import ReachMixture.Run.Summary
import ReachMixture.Session.EnvFile
import ReachMixture.Session.LogFilter
import ReachMixture.Text.Lines
import ReachMixture.Trajectory.Table

/-!
# Sessions

One call of the program: arguments and environment in, a report out. The session
itself writes nothing; it says what is to be printed, which events are shown,
and where the trajectory is to be exported.

- `Request`: what the program is called with.
- `Output`: what is printed.
- `Reply`: the whole answer.
- `respond`: from request to reply.
-/

namespace ReachMixture.Session

open CommandLine

variable {α : Type}

/-- What the program is called with. -/
structure Request where
  /-- The arguments without the name of the program. -/
  args : List String
  /-- The environment. -/
  environment : Environment
  /-- The text of the environment file, if there is one. -/
  envFile : Option String

/-- The environment variable that says which events are shown. -/
def logVariable : String := "ADM_LOG"

/-- The name and version of the program. -/
def versionText : String := "adm 0.1.0\n"

/-- What is printed. -/
inductive Output (α : Type) where
  /-- A report for people. -/
  | text (s : String)
  /-- A document for other programs. -/
  | summary (s : Summary α)

/-- The text of an output. -/
def Output.render [NumberText α] : Output α → String
  | .text s => s
  | .summary s => s.text ++ "\n"

/-- Records on their way to a path. -/
structure Export (α : Type) where
  /-- Where they go. -/
  path : String
  /-- The records. -/
  records : List (StepRecord α)

/-- What a run has to say. -/
structure Report (α : Type) where
  /-- The events that are shown, first to last. -/
  events : List Event
  /-- What is printed. -/
  output : Option (Output α)
  /-- What is to be exported after printing, or why the run failed. -/
  result : Except (Failure α) (Option (Export α))

/-- The answer to a `Request`. -/
inductive Reply (α : Type) where
  /-- The command line is refused, or it asks for help or the version. -/
  | usage (u : Usage)
  /-- The run was made. -/
  | ran (r : Report α)

/-- A report without output. -/
def Report.failed (events : List Event) (failure : Failure α) : Report α :=
  ⟨events, none, .error failure⟩

section

variable [Zero α] [One α] [Add α] [Sub α] [Mul α] [Div α] [Neg α] [LT α] [LE α]
  [DecidableLT α] [DecidableLE α]
variable [NatCast α] [Scalar α] [NumberText α]

/-- What a fit prints: its `Summary` if `c.json`, or else a report with the
table of its trajectory. -/
def fitOutput (time : String) (c : RunConfig α) (run : FitRun α) : Output α :=
  if c.json then .summary (.of c run.fitted run.distance run.trajectory)
  else
    let report := Text.unlines
      (Report.fitLines time c run.problem.truth run.fitted run.distance)
    let table := trajectoryTable run.trajectory
    .text (report ++ "\n" ++ if table.isEmpty then "" else table ++ "\n")

/-- `runFit` under the settings of `args`, with its output and export. -/
def reportFit (γ : Type) [RandomSource γ α] (inner : LeastSquares.PassiveSolve α)
    (time : String) (args : FitArgs α) : Report α :=
  match args.settings with
  | .error failure => .failed [] failure
  | .ok c =>
    let logged := runFit γ inner c
    match logged.result with
    | .error failure => .failed logged.events failure
    | .ok run =>
      { events := logged.events
        output := some (fitOutput time c run)
        result := .ok (c.exportTrajectory.map fun path => ⟨path, run.trajectory⟩) }

/-- `runWeights` under the settings of `args`, with its output. -/
def reportWeights (γ : Type) [RandomSource γ α] (inner : LeastSquares.PassiveSolve α)
    (args : ProblemArgs α) : Report α :=
  match args.settings with
  | .error failure => .failed [] failure
  | .ok c =>
    let logged := runWeights γ inner c
    match logged.result with
    | .error failure => .failed logged.events failure
    | .ok run =>
      { events := logged.events
        output := some (.text
          (Text.unlines (Report.weightsLines run.problem.truth run.recovered
            run.distance) ++ "\n"))
        result := .ok none }

/-- The filter of a request: what the command line says, or else `logVariable`
in the environment, to which the environment file only adds. -/
def Request.filter (r : Request) (logLevel : Option String) : LogFilter :=
  let environment := match r.envFile with
    | some text => EnvFile.load r.environment text
    | none => r.environment
  LogFilter.read (logLevel <|> environment.get? logVariable)

/-- Answers a request: parses the command line, runs the command, and filters
the events. `time` stands in reports. -/
def respond (γ : Type) [RandomSource γ α] (inner : LeastSquares.PassiveSolve α)
    (time : String) (r : Request) : Reply α :=
  match parse r.args with
  | .error u => .usage u
  | .ok invocation =>
    let filter := r.filter invocation.logLevel
    let report := match invocation.command with
      | .fit args => reportFit γ inner time args
      | .weights args => reportWeights γ inner args
    .ran { report with events := report.events.filter fun e => filter.shows e.level }

end

end ReachMixture.Session
