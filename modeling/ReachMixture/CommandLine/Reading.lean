import ReachMixture.CommandLine.Option

/-!
# Reading a command line

Arguments are read from left to right. An option that takes a value waits for it
in the next argument; it is settled, and its value read, when the next option
comes or the arguments end. A word that means nothing is refused at once, before
a waiting option is settled. Two hyphens end the options.

- `Token`: what an argument looks like.
- `Reading`, `Reading.token`: the options of one place, read so far.
- `Invocation`, `parse`: a whole command line.
-/

namespace ReachMixture.CommandLine

variable {α : Type}

/-- What an argument looks like, before it is looked up among the options of a
place. -/
inductive Token where
  /-- Two hyphens. -/
  | separator
  /-- Two hyphens, a name, and perhaps a value behind an equals sign. -/
  | long (name : String) (value : Option String)
  /-- A hyphen and letters. -/
  | short (letters : List Char)
  /-- Anything else, a single hyphen included. -/
  | word (text : String)

/-- The look of an argument. The value behind `=` may be empty and may contain
`=` itself. -/
def Token.of (arg : String) : Token :=
  match arg.toList with
  | ['-', '-'] => .separator
  | '-' :: '-' :: rest =>
    let name := rest.takeWhile (· != '=')
    let value := match rest.dropWhile (· != '=') with
      | [] => none
      | _ :: value => some (String.ofList value)
    .long (String.ofList name) value
  | '-' :: c :: rest => .short (c :: rest)
  | _ => .word arg

/-- The options of one place, read so far. -/
structure Reading (α : Type) where
  /-- The values that were read. -/
  draft : Draft α
  /-- An option that is not settled yet, with its value if that has come. -/
  waiting : Option (Flag × Option String)
  /-- Two hyphens have come. -/
  ended : Bool

section

variable [NumberText α] [Scalar α]

/-- The reading before the first argument. -/
def Reading.start : Reading α := ⟨.empty, none, false⟩

/-- Takes an option with its value into the draft. `help` and `version` end the
reading; an option without its value is `missingValue`. -/
def Reading.take (r : Reading α) (f : Flag) (value : Option String) :
    Except Usage (Reading α) :=
  match f, value with
  | .help, _ => .error .help
  | .version, _ => .error .version
  | .json, _ => do
    return { r with draft := (← (← r.draft.mark .json).store .json ""), waiting := none }
  | _, none => .error .missingValue
  | f, some text => do
    return { r with draft := (← (← r.draft.mark f).store f text), waiting := none }

/-- Takes the option that waits, which is done only when the next one comes or
the arguments end. -/
def Reading.settle (r : Reading α) : Except Usage (Reading α) :=
  match r.waiting with
  | none => .ok r
  | some (f, value) => r.take f value

/-- An option with the value `attached` to it, if any. An option that takes one
and has none attached waits for the next argument. -/
def Reading.option (r : Reading α) (f : Flag) (attached : Option String) :
    Except Usage (Reading α) :=
  if f.takesValue then do
    let r ← r.settle
    match attached with
    | some _ => r.take f attached
    | none => return { r with waiting := some (f, none) }
  else match attached with
    | some _ => .error .unneededValue
    | none => do (← r.settle).take f none

/-- Letters behind one hyphen. A letter that takes a value takes all that
follows it, less an equals sign. -/
def Reading.letters (p : Place) (r : Reading α) : List Char → Except Usage (Reading α)
  | [] => .ok r
  | c :: rest =>
    match p.findShort? c with
    | none => .error .unknownArgument
    | some f =>
      if f.takesValue then
        match rest with
        | [] => r.option f none
        | '=' :: value => r.option f (some (String.ofList value))
        | value => r.option f (some (String.ofList value))
      else do
        let r ← r.option f none
        Reading.letters p r rest

/-- An option, or the value of the option that waits; `none` for a word that is
neither. -/
def Reading.token (p : Place) (r : Reading α) (arg : String) :
    Except Usage (Option (Reading α)) :=
  if r.ended then .ok none
  else match Token.of arg with
    | .separator => .ok (some { r with ended := true })
    | .long name value =>
      match p.findLong? name with
      | some f => (r.option f value).map some
      | none => .error .unknownArgument
    | .short letters => (r.letters p letters).map some
    | .word text =>
      match r.waiting with
      | some (f, none) => .ok (some { r with waiting := some (f, some text) })
      | _ => .ok none

/-- The options behind a command; a stray word is an `unknownArgument`. -/
def readOptions (p : Place) : Reading α → List String → Except Usage (Draft α)
  | r, [] => r.settle.map Reading.draft
  | r, arg :: rest => do
    match ← r.token p arg with
    | some r => readOptions p r rest
    | none => .error .unknownArgument

end

/-- The arguments that describe the problem. -/
structure ProblemArgs (α : Type) where
  /-- The number of audiences. -/
  rows : Nat
  /-- Locations of the mixture that generates the target. -/
  locations : List (List α)
  /-- Weights of that mixture. -/
  weights : List α
  /-- The seed. -/
  seed : UInt64
  /-- The iteration cap of the solver. -/
  solverCap : Nat

/-- The arguments that describe the fit, those of its problem included. -/
structure FitArgs (α : Type) where
  /-- What describes the problem. -/
  problem : ProblemArgs α
  /-- Candidates per step. -/
  newCenters : Nat
  /-- The width of the noise. -/
  sigma : α
  /-- The number of steps. -/
  maxSteps : Nat
  /-- The distance of recorded steps. -/
  traceEvery : Nat
  /-- Where the trajectory goes. -/
  exportTrajectory : Option String
  /-- Report a document. -/
  json : Bool

/-- The command with its arguments. -/
inductive Command (α : Type) where
  /-- Fit a mixture. -/
  | fit (args : FitArgs α)
  /-- Solve for the weights of the true locations. -/
  | weights (args : ProblemArgs α)

/-- A command line that was understood. -/
structure Invocation (α : Type) where
  /-- Which events are shown, if the command line says so. -/
  logLevel : Option String
  /-- What is to be done. -/
  command : Command α

/-- The problem options, with the values of `RunConfig.usual` where none are
given. Locations and weights stay as given. -/
def Draft.problemArgs (d : Draft α) : ProblemArgs α where
  rows := d.rows.getD 1000
  locations := d.locations
  weights := d.weights
  seed := UInt64.ofNat (d.seed.getD 42)
  solverCap := d.solverCap.getD 1000

/-- The fit options, with the values of `FitConfig.usual` where none are given. -/
def Draft.fitArgs [One α] [Div α] [NatCast α] (d : Draft α) : FitArgs α where
  problem := d.problemArgs
  newCenters := d.newCenters.getD 10
  sigma := d.sigma.getD (1 / ((100 : Nat) : α))
  maxSteps := d.maxSteps.getD 1000
  traceEvery := d.traceEvery.getD 0
  exportTrajectory := d.exportTrajectory
  json := d.json

/-- The place behind the command `name`. -/
def Place.ofCommand? (name : String) : Option Place :=
  if name = "fit" then some .fit else if name = "weights" then some .weights else none

/-- Help on a command: one command may be named, and nothing more. -/
def helpOn : List String → Usage
  | [] => .help
  | [name] =>
    if name = "help" ∨ (Place.ofCommand? name).isSome then .help else .unknownCommand
  | _ => .unknownCommand

section

variable [NumberText α] [Scalar α] [One α] [Div α] [NatCast α]

/-- The rest of a command line behind its command. The log level of `p` wins
over that of `top`; the option that waits before the command is settled last. -/
def readCommand (p : Place) (outer : Reading α) (args : List String) :
    Except Usage (Invocation α) := do
  let inner ← readOptions p .start args
  let outer ← outer.settle
  return { logLevel := inner.logLevel <|> outer.draft.logLevel
           command :=
             if p = .fit then .fit inner.fitArgs
             else .weights inner.problemArgs }

/-- A command line from its first argument on, up to the command. -/
def readTop : Reading α → List String → Except Usage (Invocation α)
  | r, [] => do
    let r ← r.settle
    .error (if r.draft.seen.isEmpty then .nothing else .noCommand)
  | r, arg :: rest => do
    let awaited := match r.waiting with
      | some (_, none) => true
      | _ => false
    match if r.ended || awaited then none else Place.ofCommand? arg with
    | some p => readCommand p r rest
    | none =>
      if arg = "help" && !r.ended && !awaited then .error (helpOn rest)
      else match ← r.token .top arg with
        | some r => readTop r rest
        | none =>
          .error (if r.ended && (arg = "help" || (Place.ofCommand? arg).isSome)
            then .unknownArgument else .unknownCommand)

/-- Reads a command line without the name of the program. -/
def parse (args : List String) : Except Usage (Invocation α) := readTop .start args

end

end ReachMixture.CommandLine
