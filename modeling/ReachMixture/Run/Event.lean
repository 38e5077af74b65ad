/-!
# Events

What a run has to tell while it works. Events are collected in order; a level
decides which of them are shown.
-/

namespace ReachMixture

/-- How much an event matters, most important first. -/
inductive Level where
  /-- The run cannot go on. -/
  | error
  /-- The result may be worse than expected. -/
  | warn
  /-- Milestones. -/
  | info
  /-- Single steps. -/
  | debug
  /-- Everything else. -/
  | trace
deriving DecidableEq

/-- The number of a level, from `1` for `error` to `5` for `trace`. -/
def Level.rank : Level → Nat
  | .error => 1
  | .warn => 2
  | .info => 3
  | .debug => 4
  | .trace => 5

/-- The name of a level. -/
def Level.name : Level → String
  | .error => "ERROR"
  | .warn => "WARN"
  | .info => "INFO"
  | .debug => "DEBUG"
  | .trace => "TRACE"

/-- The levels, most important first. -/
def Level.all : List Level := [.error, .warn, .info, .debug, .trace]

/-- What happens on the way to a result. -/
inductive Event where
  /-- A fit begins. -/
  | fitStarted (rows dims steps : Nat)
  /-- A solve ended before it converged. -/
  | solverStopped
  /-- A step is done. -/
  | stepTaken (step components : Nat)
  /-- A step that was due could not be recorded. -/
  | recordSkipped (step : Nat)
  /-- A step is recorded. -/
  | progress (step components : Nat)
  /-- Some steps of the fit did not converge. -/
  | capReached (steps : Nat)
  /-- A fit is done. -/
  | fitFinished (components : Nat)
  /-- Weights are solved. -/
  | weightsSolved (components : Nat)
deriving DecidableEq

namespace Event

/-- The `Level` at which an event is shown. -/
def level : Event → Level
  | .fitStarted .. | .progress .. | .fitFinished _ | .weightsSolved _ => .info
  | .solverStopped | .stepTaken .. | .recordSkipped _ => .debug
  | .capReached _ => .warn

/-- The wording of an event, with its numbers as `name=value`. -/
def message : Event → String
  | .fitStarted rows dims steps =>
    "starting adaptive fit rows=" ++ toString rows ++ " dims=" ++ toString dims ++
      " steps=" ++ toString steps
  | .solverStopped => "nnls stopped at iteration cap"
  | .stepTaken step components =>
    "adaptive step step=" ++ toString step ++ " components=" ++ toString components
  | .recordSkipped step => "skipping trajectory record step=" ++ toString step
  | .progress step components =>
    "fit progress step=" ++ toString step ++ " components=" ++ toString components
  | .capReached steps =>
    "weight solve hit its iteration cap; weights are best effort capped_steps=" ++
      toString steps
  | .fitFinished components => "adaptive fit finished components=" ++ toString components
  | .weightsSolved components =>
    "fixed-location weights solved components=" ++ toString components

end Event

/-- A result together with the events on the way to it, first to last. -/
structure Logged (ε β : Type) where
  /-- What happened. -/
  events : List Event
  /-- The result, or why there is none. -/
  result : Except ε β

end ReachMixture
