import ReachMixture.Capacity
import ReachMixture.Mixture.Basic
import ReachMixture.Random.Source
import ReachMixture.Linear.Vec

/-!
# Candidate locations

New candidates are drawn around the current locations: a location is chosen with
probability proportional to its weight, every coordinate gets normal noise, and
the result is kept only if it can be read as a vector of exposure rates.
Exploration thus concentrates around the locations that already carry weight,
and fewer candidates than asked for, possibly none, may come back.

- `isValidLocation`: positive least coordinate and positive sum.
- `Stretch`, `Picker`: locations side by side, each as long as its weight.
- `totalOf`: the length of the whole line, below which a place is drawn.
- `drawCandidate`, `drawCandidates`: noisy copies of picked locations.
- `sampleCandidates`: the checks and the draws together; `sampling` is the same
  as an action on a stream that its caller keeps.
- `drawUniform`, `drawTable`: numbers drawn evenly between zero and one.
-/

namespace ReachMixture

variable {α γ : Type} {m : Nat}

/-! ## Valid locations -/

/-- The least coordinate, with the undefined ones (`¬ v ≤ v`) left out; `none`
if nothing is left. -/
def leastCoordinate [LT α] [LE α] [DecidableLT α] [DecidableLE α]
    (coords : List α) : Option α :=
  coords.foldl
    (fun least v =>
      match least with
      | none => if v ≤ v then some v else none
      | some l => if v < l then some v else some l)
    none

/-- Whether coordinates can be read as exposure rates: there are some, the
`leastCoordinate` is positive, and so is their sum. -/
def isValidLocation [Zero α] [Add α] [LT α] [LE α] [DecidableLT α] [DecidableLE α]
    (coords : List α) : Bool :=
  !coords.isEmpty && (leastCoordinate coords).all (fun l => decide (0 < l)) &&
    decide (0 < coords.foldl (· + ·) 0)

/-! ## Picking by weight -/

/-- Locations to pick from, side by side on a line that starts at zero, each on
a stretch as long as its weight. A search tree over the bounds between them. -/
inductive Stretch (α : Type) (m : Nat) where
  /-- One location. -/
  | one (location : Vector α m)
  /-- Locations below `bound`, and locations from `bound` on. -/
  | split (left : Stretch α m) (bound : α) (right : Stretch α m)

namespace Stretch

/-- The location at place `u`. A bound belongs to the location behind it. -/
def pick [LE α] [DecidableLE α] (u : α) : Stretch α m → Vector α m
  | .one location => location
  | .split left bound right => if bound ≤ u then right.pick u else left.pick u

/-- The stretch of `first` and of others behind it, each with the bound at which
it begins. All splits are on the right. -/
def chain (first : Vector α m) : List (α × Vector α m) → Stretch α m
  | [] => .one first
  | (bound, next) :: rest => .split (.one first) bound (chain next rest)

/-- `chain first others`, split in the middle `depth` times, so that picking
from `n` locations takes about `log n` steps. -/
def balanced : (depth : Nat) → Vector α m → List (α × Vector α m) → Stretch α m
  | 0, first, others => chain first others
  | depth + 1, first, others =>
    match others.splitAt (others.length / 2) with
    | (_, []) => chain first others
    | (left, (bound, next) :: right) =>
      .split (balanced depth first left) bound (balanced depth next right)

end Stretch

/-- The sum of weights, first to last, beginning with the first one itself; `0`
without weights. -/
def totalOf [Zero α] [Add α] : List α → α
  | [] => 0
  | w :: rest => rest.foldl (· + ·) w

/-- Locations with weights to pick from. -/
structure Picker (α : Type) (m : Nat) where
  /-- The locations side by side. -/
  stretch : Stretch α m
  /-- `totalOf` the weights. -/
  total : α

namespace Picker

/-- Locations with the bounds at which they begin, the first at `place`: the
partial sums of the weights. -/
def places [Add α] (place : α) : List (Component α m) → List (α × Vector α m)
  | [] => []
  | c :: rest => (place, c.location) :: places (place + c.weight) rest

/-- The picker of a nonempty list of components. -/
def ofCons [Zero α] [Add α] (c : Component α m)
    (rest : List (Component α m)) : Picker α m where
  stretch := Stretch.balanced (Nat.log2 rest.length) c.location (places c.weight rest)
  total := totalOf ((c :: rest).map Component.weight)

/-- The location that a number `u` in `[0, total)` belongs to. -/
def pick [LE α] [DecidableLE α] (p : Picker α m) (u : α) : Vector α m := p.stretch.pick u

/-- The picker of a list of components; `none` if they have no weight to share.
A weight that is negative or undefined is a `badSamplingWeight`, and a total
that is not finite aborts with `unboundedWeights`. -/
def ofComponents [Zero α] [Add α] [LT α] [LE α] [DecidableLT α]
    [DecidableLE α] [Scalar α] :
    List (Component α m) → Except (Fault α) (Option (Picker α m))
  | [] => .ok none
  | c :: rest =>
    if (c :: rest).all fun c => decide (0 ≤ c.weight) then
      let p := ofCons c rest
      if !decide (0 < p.total) then .ok none
      else if Scalar.isFinite p.total then .ok (some p)
      else .error (.aborted .unboundedWeights)
    else .error .badSamplingWeight

end Picker

/-! ## Drawing -/

/-- Whether `sigma` is finite and positive. -/
def isWidth [Zero α] [LT α] [DecidableLT α] [Scalar α] (sigma : α) : Bool :=
  Scalar.isFinite sigma && decide (0 < sigma)

section Draw

variable [Zero α] [Add α] [Mul α] [LT α] [LE α] [DecidableLT α] [DecidableLE α] [Scalar α]
variable [RandomSource γ α]

/-- A picked location with noise of width `sigma` on every coordinate. The place
is drawn first; then every coordinate takes one normal number, in order. -/
def drawCandidate (p : Picker α m) (sigma : α) (g : γ) : Vector α m × γ :=
  let (u, g) := RandomSource.below p.total g
  let (noise, g) := drawVector RandomSource.normal m g
  (Vector.zipWith (fun x z => x + sigma * z) (p.pick u) noise, g)

/-- Draws `count` candidates and keeps those with `isValidLocation`. Dropped
candidates have consumed their draws. -/
def drawCandidates (p : Picker α m) (sigma : α) : (count : Nat) → γ →
    List (Vector α m) × γ
  | 0, g => ([], g)
  | count + 1, g =>
    let (candidate, g) := drawCandidate p sigma g
    let (others, g) := drawCandidates p sigma count g
    (if isValidLocation candidate.toList then candidate :: others else others, g)

/-- Up to `count` candidates around weighted locations. Without weight there are
none, and nothing is drawn. Room for `count` rows is set aside before the first
draw, so `Capacity.rows` candidates are too many. -/
def sampleCandidates (components : List (Component α m)) (count : Nat)
    (sigma : α) (g : γ) :
    Except (Fault α) (List (Vector α m) × γ) :=
  if isWidth sigma then
    match Picker.ofComponents components with
    | .error fault => .error fault
    | .ok none => .ok ([], g)
    | .ok (some p) =>
      if Capacity.rows ≤ count then .error (.aborted .overCapacity)
      else .ok (drawCandidates p sigma count g)
  else .error (.badSamplingSigma sigma)

/-- `sampleCandidates` around the rows of a table, one weight per row. -/
def sampleTable (locations : Table α) (weights : List α) (count : Nat)
    (sigma : α) (g : γ) :
    Except (Fault α) (List (Vector α locations.cols) × γ) := do
  let components ← Component.zipTable .samplerWeights weights locations
  sampleCandidates components count sigma g

/-- `sampleTable` as an action on a stream: the checks in their order, each of
which may end it, and then the draws. -/
def sampling (locations : Table α) (weights : List α) (count : Nat) (sigma : α) :
    ExceptT (Fault α) (StateM γ) (List (Vector α locations.cols)) := do
  let components ← MonadExcept.ofExcept
    (Component.zipTable .samplerWeights weights locations)
  unless isWidth sigma do throw (.badSamplingSigma sigma)
  match ← MonadExcept.ofExcept (Picker.ofComponents components) with
  | none => return []
  | some p =>
    if Capacity.rows ≤ count then throw (.aborted .overCapacity)
    modifyGet (drawCandidates p sigma count)

end Draw

/-! ## Even draws -/

section Uniform

variable [RandomSource γ α]

/-- A signal of `rows` audiences with `dims` numbers in `[0, 1)` each. -/
def drawSignal (rows dims : Nat) (g : γ) : Vector (Vector α dims) rows × γ :=
  drawVector (drawVector RandomSource.unit dims) rows g

/-- `drawSignal` with the block of `rows * dims` numbers it takes. -/
def drawUniform (rows dims : Nat) (g : γ) :
    Except (Fault α) (Vector (Vector α dims) rows × γ) := do
  Capacity.reserve (rows * dims)
  return drawSignal rows dims g

/-- `drawUniform` as a table. Rows without entries are not drawn one by one. -/
def drawTable (rows dims : Nat) (g : γ) : Except (Fault α) (Table α × γ) :=
  if dims = 0 then .ok (.ofNoColumns rows, g)
  else do
    let (signal, g) ← drawUniform rows dims g
    return (.ofVectors signal, g)

end Uniform

end ReachMixture
