import ReachMixture.Fit.Config
import ReachMixture.Fit.Observations

/-!
# Adaptive fits

A fit improves a mixture step by step. Each step draws candidates around the
current locations, solves for the weights of current locations and candidates
together, and drops every location whose weight is not positive. It takes
exactly as many steps as its settings say; there is no early exit. Steps are
pure: a step makes a new mixture from the old one.

- `prune`: the locations that keep a positive weight.
- `Fit.step`: one step.
- `Fit.run`: all steps, reported to an observer.
- `adaptiveFit`: the checks of the settings, the start and the run.
- `fitTable`: the same from tables on, which are checked first (`checkedStart`).
-/

namespace ReachMixture

variable {α γ σ : Type} {m : Nat}

/-- What a completed step reports to the observer. -/
structure Snapshot (α : Type) (m : Nat) [Zero α] [LT α] [Scalar α] where
  /-- The number of steps before this one. -/
  step : Nat
  /-- The mixture after the step. -/
  mixture : Mixture α m
  /-- The candidates that were valid. -/
  accepted : Nat
  /-- The residual norm, as the solver reports it. -/
  residual : α
  /-- The solver's own `converged`. -/
  converged : Bool

/-- A fit from its start to its end or its fault, for an observer with states
`σ`. -/
structure FitOutcome (α γ σ : Type) (m : Nat) [Zero α] [LT α] [Scalar α] where
  /-- The last mixture, or why there is none. -/
  result : Except (Fault α) (Mixture α m)
  /-- What the observer has seen: the fold of the completed steps. -/
  observed : σ
  /-- The random stream after the last completed step. -/
  stream : γ
  /-- The completed steps in which the solver did not converge. -/
  cappedSteps : Nat

section Prune

variable [Zero α] [LT α] [DecidableLT α] [Scalar α]

/-- Whether a coefficient is finite and positive, so that `prune` keeps its
location. -/
def carriesWeight (w : α) : Bool := Scalar.isFinite w && decide (0 < w)

/-- The mixture of the pooled locations that `carriesWeight`, in pool order. A
number of coefficients other than `pool.length` is a `shapeMismatch`. -/
def prune (pool : List (Vector α m)) (coefficients : List α) :
    Except (Fault α) (Mixture α m) := do
  let components ← Component.zip .solverOutput coefficients pool
  Mixture.ofComponents (components.filter fun c => carriesWeight c.weight)

end Prune

section Fit

variable [Zero α] [One α] [Add α] [Sub α] [Mul α] [Div α] [Neg α] [LT α] [LE α]
  [DecidableLT α] [DecidableLE α]
variable [NatCast α] [Scalar α] [RandomSource γ α]

namespace Fit

/-- One step: draw candidates, pool them with the locations of `mixture`, solve
for the weights of the pool, prune. The pool is a block of
`pool.length * o.dims` coordinates. -/
def step (o : Observations α) (config : FitConfig α) (solver : LeastSquares.Solver α)
    (index : Nat) (mixture : Mixture α o.dims) (g : γ) :
    Except (Fault α) (Snapshot α o.dims × γ) := do
  let (candidates, g) ← sampleCandidates mixture.components
    config.newCenters config.sigma g
  let pool := mixture.locations ++ candidates
  Capacity.reserve (pool.length * o.dims)
  let solution ← o.solveWeights solver pool.length (Vec.ofList pool rfl)
  let next ← prune pool solution.coefficients
  return ({ step := index
            mixture := next
            accepted := candidates.length
            residual := solution.residual
            converged := solution.converged }, g)

/-- `remaining` more steps after `index` steps, up to the first fault. The
solver may differ from step to step. The recursion is on `remaining`. -/
def run (o : Observations α) (config : FitConfig α) (solver : Nat → LeastSquares.Solver α)
    (observe : σ → Snapshot α o.dims → σ) :
    (remaining index : Nat) → Mixture α o.dims → γ → σ → (capped : Nat) →
    FitOutcome α γ σ o.dims
  | 0, _, mixture, g, seen, capped => ⟨.ok mixture, seen, g, capped⟩
  | remaining + 1, index, mixture, g, seen, capped =>
    match step o config (solver index) index mixture g with
    | .error fault => ⟨.error fault, seen, g, capped⟩
    | .ok (snapshot, g) =>
      run o config solver observe remaining (index + 1) snapshot.mixture g
        (observe seen snapshot) (if snapshot.converged then capped else capped + 1)

end Fit

/-- Fits a mixture to observations with the given solvers and random stream: the
settings and the start are checked, then `config.maxSteps` steps are taken.
`config.seed` and `config.solverCap` are not read after the check. -/
def adaptiveFit (o : Observations α) (config : FitConfig α)
    (solver : Nat → LeastSquares.Solver α) (g : γ) (observe : σ → Snapshot α o.dims → σ)
    (seen : σ) : FitOutcome α γ σ o.dims :=
  match config.validate *> config.initialMixture o.dims with
  | .error fault => ⟨.error fault, seen, g, 0⟩
  | .ok mixture => Fit.run o config solver observe config.maxSteps 0 mixture g seen 0

/-- `adaptiveFit` with the active-set solver of `config.solverCap` and the
stream of `config.seed`. -/
def standardFit (γ : Type) [RandomSource γ α] (inner : LeastSquares.PassiveSolve α)
    (o : Observations α) (config : FitConfig α) (observe : σ → Snapshot α o.dims → σ)
    (seen : σ) : FitOutcome α γ σ o.dims :=
  adaptiveFit o config (fun _ => LeastSquares.activeSet inner config.solverCap)
    (RandomSource.seeded α config.seed) observe seen

/-- What is checked before the first step, in order: the shapes of `signal` and
`target`, the settings, and the start. -/
def checkedStart (signal : Table α) (target : List α) (config : FitConfig α) :
    Except (Fault α) ((o : Observations α) × Mixture α o.dims) := do
  let o ← Observations.ofTable signal target
  let start ← config.validate *> config.initialMixture o.dims
  return ⟨o, start⟩

/-- `adaptiveFit` from tables on. Its observer is told how many columns they
have. -/
def fitTable (signal : Table α) (target : List α) (config : FitConfig α)
    (solver : Nat → LeastSquares.Solver α) (g : γ)
    (observe : (m : Nat) → σ → Snapshot α m → σ) (seen : σ) :
    (m : Nat) × FitOutcome α γ σ m :=
  match checkedStart signal target config with
  | .error fault => ⟨signal.cols, .error fault, seen, g, 0⟩
  | .ok ⟨o, start⟩ =>
    ⟨o.dims, Fit.run o config solver (observe o.dims) config.maxSteps 0 start g seen 0⟩

end Fit

end ReachMixture
