import ReachMixture.LeastSquares.Pivots

/-!
# Nonnegative least squares

The active-set method for `min ‖A x - b‖` subject to `x ≥ 0`. Columns are either
pinned at zero or *passive*, that is free. The column with the steepest gradient
becomes passive, and the problem is solved without constraints on the passive
columns (a *trial*). A positive trial becomes the new point. Otherwise the point
moves towards the trial until the first passive coefficient reaches zero, the
columns at zero are pinned again, and the smaller passive set is tried.

Every trial costs one iteration, and a run may spend no more than its cap. The
run is therefore a chain of pending trials:

- `Pending`: a trial that waits for an iteration, because a column enters or
  because the point has to retreat.
- `Verdict`: what is known after a trial: a next pending trial, or the end of
  the run.
- `advance`: spends one iteration on a pending trial.
- `run`: advances until the run ends or the cap is spent.
- `solve`: the run from `x = 0`.

How a trial is computed is a parameter: a `PassiveSolve`.
-/

namespace ReachMixture.LeastSquares

variable {α : Type} {n k : Nat}

/-- A way to solve a least-squares problem without constraints on the columns
`idx`. The answer has an entry for every column; only those of `idx` are read. -/
structure PassiveSolve (α : Type) where
  /-- The trial on the columns `idx`, or `none` if there is no usable one. -/
  trial : {n k : Nat} → Design α n k → Normal α k →
    (idx : List (Fin k)) → Option (Vector α k)

namespace ActiveSet

/-- A feasible point with the partition of the columns into passive (free) and
active (pinned at zero). -/
structure State (α : Type) (k : Nat) where
  /-- The current coefficients `x`. -/
  point : Vector α k
  /-- The columns that are free, not pinned at zero. -/
  passive : Vector Bool k
  /-- Columns that were refused since `point` last changed. -/
  blocked : Vector Bool k

/-- `x = 0` with all columns pinned and none blocked. -/
def State.start [Zero α] (k : Nat) : State α k :=
  ⟨Vector.replicate k 0, Vector.replicate k false, Vector.replicate k false⟩

/-- The `passive` columns in ascending order: the `idx` of the next trial. -/
def State.free (s : State α k) : List (Fin k) :=
  (List.finRange k).filter fun i => s.passive.get i

/-- A trial that waits for an iteration of the budget. -/
inductive Pending (α : Type) (k : Nat) where
  /-- `column` is to become passive. -/
  | enter (s : State α k) (column : Fin k)
  /-- The point is to retreat on the way to `target`; `column` was the last to
  enter. -/
  | retreat (s : State α k) (column : Fin k) (target : Vector α k)

/-- The state that stands if the budget ends before the pending trial. -/
def Pending.state : Pending α k → State α k
  | .enter s _ => s
  | .retreat s _ _ => s

/-- What follows from a trial. -/
inductive Verdict (α : Type) (k : Nat) where
  /-- No candidate has a gradient above the tolerance. -/
  | converged (s : State α k)
  /-- The trial could not be computed. -/
  | stuck (s : State α k)
  /-- Another trial is needed. -/
  | pending (p : Pending α k)

section Entering

variable [LT α] [DecidableLT α]

/-- The index with the largest entry of `w`; of equal or incomparable entries
the last one in the list. -/
def steepest (w : Vector α k) : List (Fin k) → Option (Fin k)
  | [] => none
  | i :: rest =>
    some (rest.foldl (fun best j => if w.get j < w.get best then best else j) i)

/-- The columns that may enter: neither `passive` nor `blocked`. -/
def State.candidates (s : State α k) : List (Fin k) :=
  (List.finRange k).filter fun i => !s.passive.get i && !s.blocked.get i

/-- The column to enter: the `steepest` candidate, if its gradient exceeds
`tolerance`. -/
def State.entering? (s : State α k) (gradient : Vector α k)
    (tolerance : α) : Option (Fin k) :=
  (steepest gradient s.candidates).filter fun j => tolerance < gradient.get j

end Entering

section Retreat

variable [Zero α] [One α] [Add α] [Sub α] [Mul α] [Div α] [LT α] [LE α]
  [DecidableLT α] [DecidableLE α]
variable [Scalar α]

/-- The share `x / (x - z)` of the way from `x` to `z` at which a coefficient
reaches zero. -/
def hitting (x z : α) : α :=
  if 0 < x - z then x / (x - z) else 0

/-- The first coefficient of `idx` to reach zero on the way from `x` to `z`,
with its share of the way; `none` if no coefficient does. Ties go to the earlier
column. -/
def firstHit (x z : Vector α k) (idx : List (Fin k)) : Option (α × Fin k) :=
  idx.foldl
    (fun first i =>
      if z.get i ≤ 0 then
        let share := hitting (x.get i) (z.get i)
        match first with
        | none => if Scalar.isFinite share then some (share, i) else none
        | some (least, _) => if share < least then some (share, i) else first
      else first)
    none

/-- A share forced into `[0, 1]`. -/
def clampShare (share : α) : α :=
  if share < 0 then 0 else if 1 < share then 1 else share

/-- How far to go from `x` towards `z`, and which column stops the move. A move
that nothing stops goes all the way, and the first of `idx` counts as the one
that stops it. -/
def stop (x z : Vector α k) (idx : List (Fin k)) : α × Option (Fin k) :=
  match firstHit x z idx with
  | some (share, i) => (clampShare share, some i)
  | none => (1, idx.head?)

/-- Moves `point` towards `z` by the share of `stop`, sets the stopping column
to zero, and pins every passive column that ends at or below zero. -/
def State.retreat (s : State α k) (z : Vector α k) : State α k :=
  let (share, stopper) := stop s.point z s.free
  let moved : Vector α k := Vector.ofFn fun i =>
    if stopper = some i then 0
    else if s.passive.get i then s.point.get i + share * (z.get i - s.point.get i)
    else s.point.get i
  let pinned : Vector Bool k :=
    Vector.ofFn fun i => s.passive.get i && decide (moved.get i ≤ 0)
  { s with
    point := Vector.ofFn fun i => if pinned.get i then 0 else moved.get i
    passive := Vector.ofFn fun i => s.passive.get i && !pinned.get i }

end Retreat

/-- Makes a column passive. -/
def State.enter (s : State α k) (column : Fin k) : State α k :=
  { s with passive := s.passive.set column true column.isLt }

/-- Pins a column again. -/
def State.leave (s : State α k) (column : Fin k) : State α k :=
  { s with passive := s.passive.set column false column.isLt }

/-- Pins a column again and marks it `blocked`, which keeps it out until `point`
changes. -/
def State.block (s : State α k) (column : Fin k) : State α k :=
  { s.leave column with blocked := s.blocked.set column true column.isLt }

/-- Takes the passive coefficients of `z` and clears `blocked`, so that every
column may enter again. -/
def State.accept (s : State α k) (z : Vector α k) : State α k :=
  { s with
    point := Vector.ofFn fun i => if s.passive.get i then z.get i else s.point.get i
    blocked := Vector.replicate k false }

section Run

variable [Zero α] [One α] [Add α] [Sub α] [Mul α] [Div α] [LT α] [LE α]
  [DecidableLT α] [DecidableLE α]
variable [Scalar α]

/-- One problem with everything that a run reads from it. -/
structure Setting (α : Type) (n k : Nat) where
  /-- The problem `A`, `b`. -/
  design : Design α n k
  /-- Its normal equations, computed once. -/
  normal : Normal α k
  /-- Gradients up to this bound count as zero. -/
  tolerance : α
  /-- How trials are computed. -/
  inner : PassiveSolve α

/-- Looks for a column to enter at `s`; without one the run has converged. -/
def Setting.choose (t : Setting α n k) (s : State α k) : Verdict α k :=
  match s.entering? (t.normal.gradient s.point) t.tolerance with
  | none => .converged s
  | some j => .pending (.enter s j)

/-- What follows from the trial `z` at state `s`, where `column` entered last. A
trial that is positive on all free columns is accepted. If it is the first one
after `column` entered and is not positive there, `column` is refused; otherwise
the point retreats. -/
def Setting.judge (t : Setting α n k) (s : State α k) (column : Fin k) (first : Bool) :
    Option (Vector α k) → Verdict α k
  | none => .stuck (s.leave column)
  | some z =>
    if s.free.all fun i => 0 < z.get i then t.choose (s.accept z)
    else if first && decide (z.get column ≤ 0) then t.choose (s.block column)
    else .pending (.retreat s column z)

/-- The trial on the free columns of a state. -/
def Setting.trial (t : Setting α n k) (s : State α k) : Option (Vector α k) :=
  t.inner.trial t.design t.normal s.free

/-- Spends one iteration on a pending trial: changes the state as announced,
makes the trial and judges it. -/
def Setting.advance (t : Setting α n k) : Pending α k → Verdict α k
  | .enter s j =>
    let s := s.enter j
    t.judge s j true (t.trial s)
  | .retreat s j z =>
    let s := s.retreat z
    t.judge s j false (t.trial s)

/-- How a run ended. -/
inductive Ending where
  /-- No candidate had a gradient above the tolerance. -/
  | converged
  /-- The cap was spent when a column was about to enter. -/
  | capped
  /-- The cap was spent when the point was about to retreat. -/
  | cappedMidway
  /-- A trial could not be computed. -/
  | stuck
deriving DecidableEq

/-- The end of a run whose cap is spent while a trial is pending. -/
def Pending.ending : Pending α k → Ending
  | .enter _ _ => .capped
  | .retreat _ _ _ => .cappedMidway

/-- The result of a run. -/
structure Outcome (α : Type) (k : Nat) where
  /-- The last state. -/
  state : State α k
  /-- The trials made. -/
  iterations : Nat
  /-- Why it ended. -/
  ending : Ending

/-- Advances until the run ends or `budget` more iterations are spent. The
recursion is on `budget`. -/
def Setting.run (t : Setting α n k) (budget spent : Nat)
    (v : Verdict α k) : Outcome α k :=
  match v, budget with
  | .converged s, _ => ⟨s, spent, .converged⟩
  | .stuck s, _ => ⟨s, spent, .stuck⟩
  | .pending p, 0 => ⟨p.state, spent, p.ending⟩
  | .pending p, budget + 1 => t.run budget (spent + 1) (t.advance p)

/-- The setting of a problem, with `Design.tolerance`. -/
def Setting.ofDesign [NatCast α] (inner : PassiveSolve α)
    (d : Design α n k) : Setting α n k :=
  ⟨d, d.normal, d.tolerance, inner⟩

/-- Nonnegative least squares `min ‖A x - b‖` over `x ≥ 0`, from `x = 0` with at
most `cap` trials. -/
def solve [NatCast α] (inner : PassiveSolve α) (cap : Nat)
    (d : Design α n k) : Outcome α k :=
  let t := Setting.ofDesign inner d
  t.run cap 0 (t.choose (.start k))

end Run

end ActiveSet

end ReachMixture.LeastSquares
