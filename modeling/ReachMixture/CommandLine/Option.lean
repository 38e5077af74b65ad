import ReachMixture.CommandLine.Location

/-!
# Options

The options of the command line, where each may stand, and what their values
mean.

- `Flag`, `Flag.long`, `Flag.short?`: the options and how they are written.
- `Place`, `Place.flags`: before the command, or behind one of the two commands.
- `Usage`: why a command line is refused.
- `Draft`, `Draft.store`: the values given so far.
-/

namespace ReachMixture.CommandLine

variable {α : Type}

/-- Why a command line is refused, or answered without a run. -/
inductive Usage where
  /-- An option or word that means nothing here. -/
  | unknownArgument
  /-- An option without its value. -/
  | missingValue
  /-- A value that cannot be read. -/
  | badValue
  /-- An option given twice. -/
  | repeated
  /-- A value for an option that takes none. -/
  | unneededValue
  /-- A word where a command is expected. -/
  | unknownCommand
  /-- Options without a command. -/
  | noCommand
  /-- Nothing at all. -/
  | nothing
  /-- Help is asked for. -/
  | help
  /-- The version is asked for. -/
  | version
deriving DecidableEq

/-- The exit code of a refusal, `2`; `help` and `version` are a success. -/
def Usage.exitCode : Usage → UInt8
  | .help | .version => 0
  | _ => 2

/-- The options, on either side of the command. -/
inductive Flag where
  /-- Which events are shown. -/
  | logLevel
  /-- The number of audiences. -/
  | rows
  /-- A location of the mixture that generates the target; may be repeated. -/
  | location
  /-- Weights of that mixture; may be repeated. -/
  | weight
  /-- The seed. -/
  | seed
  /-- The iteration cap of the solver. -/
  | solverCap
  /-- Candidates per step. -/
  | newCenters
  /-- The width of the noise. -/
  | sigma
  /-- The number of steps. -/
  | maxSteps
  /-- The distance of recorded steps. -/
  | traceEvery
  /-- Where the trajectory goes. -/
  | exportTrajectory
  /-- Report a document. -/
  | json
  /-- Show help. -/
  | help
  /-- Show the version. -/
  | version
deriving DecidableEq

namespace Flag

/-- The long name of an option, behind `--`. -/
def long : Flag → String
  | .logLevel => "log-level"
  | .rows => "rows"
  | .location => "location"
  | .weight => "weight"
  | .seed => "seed"
  | .solverCap => "solver-max-iter"
  | .newCenters => "new-centers"
  | .sigma => "sigma"
  | .maxSteps => "max-steps"
  | .traceEvery => "trace-every"
  | .exportTrajectory => "export-trajectory"
  | .json => "json"
  | .help => "help"
  | .version => "version"

/-- The letter of an option, behind `-`. -/
def short? : Flag → Option Char
  | .rows => some 'n'
  | .help => some 'h'
  | .version => some 'V'
  | _ => none

/-- Whether an option takes a value. -/
def takesValue : Flag → Bool
  | .json | .help | .version => false
  | _ => true

/-- Whether an option may be given more than once; each `location` or `weight`
adds to those before it. -/
def mayRepeat : Flag → Bool
  | .location | .weight => true
  | _ => false

end Flag

/-- The places at which options are read, each with its own `Place.flags`. -/
inductive Place where
  /-- Before the command. -/
  | top
  /-- Behind `fit`. -/
  | fit
  /-- Behind `weights`. -/
  | weights
deriving DecidableEq

/-- The options that may stand at a place. -/
def Place.flags : Place → List Flag
  | .top => [.logLevel, .help, .version]
  | .weights => [.logLevel, .rows, .location, .weight, .seed, .solverCap, .help]
  | .fit =>
    [.logLevel, .rows, .location, .weight, .seed, .solverCap, .newCenters, .sigma,
      .maxSteps, .traceEvery, .exportTrajectory, .json, .help]

/-- The option with the long name `name` at a place. -/
def Place.findLong? (p : Place) (name : String) : Option Flag :=
  p.flags.find? fun f => f.long == name

/-- The option with the letter `letter` at a place. -/
def Place.findShort? (p : Place) (letter : Char) : Option Flag :=
  p.flags.find? fun f => f.short? == some letter

/-- A natural number below `2^64`: digits with an optional plus sign; `badValue`
otherwise. -/
def readNatural (text : String) : Except Usage Nat :=
  let digits := match text.toList with
    | '+' :: rest => rest
    | cs => cs
  match Decimal.wholeNumber? digits with
  | some n => if n < UInt64.size then .ok n else .error .badValue
  | none => .error .badValue

/-- A number by `NumberText.read?`; `badValue` otherwise. -/
def readNumber [NumberText α] (text : String) : Except Usage α :=
  match NumberText.read? text with
  | some x => .ok x
  | none => .error .badValue

/-- The values given so far, with `none` for those that were not. -/
structure Draft (α : Type) where
  /-- Options that were given. -/
  seen : List Flag
  /-- Which events are shown. -/
  logLevel : Option String
  /-- The number of audiences. -/
  rows : Option Nat
  /-- Locations in order. -/
  locations : List (List α)
  /-- Weights in order. -/
  weights : List α
  /-- The seed. -/
  seed : Option Nat
  /-- The iteration cap of the solver. -/
  solverCap : Option Nat
  /-- Candidates per step. -/
  newCenters : Option Nat
  /-- The width of the noise. -/
  sigma : Option α
  /-- The number of steps. -/
  maxSteps : Option Nat
  /-- The distance of recorded steps. -/
  traceEvery : Option Nat
  /-- Where the trajectory goes. -/
  exportTrajectory : Option String
  /-- Report a document. -/
  json : Bool

namespace Draft

/-- The draft before the first option. -/
def empty : Draft α where
  seen := []
  logLevel := none
  rows := none
  locations := []
  weights := []
  seed := none
  solverCap := none
  newCenters := none
  sigma := none
  maxSteps := none
  traceEvery := none
  exportTrajectory := none
  json := false

/-- Marks an option as given; `repeated` if it was, unless it `mayRepeat`. -/
def mark (d : Draft α) (f : Flag) : Except Usage (Draft α) :=
  if !f.mayRepeat && d.seen.contains f then .error .repeated
  else .ok { d with seen := f :: d.seen }

/-- Reads the value of an option into the draft; `badValue` if it cannot be
read. -/
def store [NumberText α] [Scalar α] (d : Draft α) (f : Flag) (text : String) :
    Except Usage (Draft α) :=
  match f with
  | .logLevel => .ok { d with logLevel := some text }
  | .rows => (readNatural text).map fun n => { d with rows := some n }
  | .location =>
    match readLocation text with
    | .ok coords => .ok { d with locations := d.locations ++ [coords] }
    | .error _ => .error .badValue
  | .weight =>
    ((Text.pieces ',' text.toList).mapM
      fun piece => readNumber (String.ofList piece)).map fun ws =>
      { d with weights := d.weights ++ ws }
  | .seed => (readNatural text).map fun n => { d with seed := some n }
  | .solverCap => (readNatural text).map fun n => { d with solverCap := some n }
  | .newCenters => (readNatural text).map fun n => { d with newCenters := some n }
  | .sigma => (readNumber text).map fun x => { d with sigma := some x }
  | .maxSteps => (readNatural text).map fun n => { d with maxSteps := some n }
  | .traceEvery => (readNatural text).map fun n => { d with traceEvery := some n }
  | .exportTrajectory =>
    if text.isEmpty then .error .missingValue
    else .ok { d with exportTrajectory := some text }
  | .json => .ok { d with json := true }
  | .help => .error .help
  | .version => .error .version

end Draft

end ReachMixture.CommandLine
