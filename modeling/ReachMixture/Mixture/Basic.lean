import ReachMixture.Linear.Table
import ReachMixture.Fault
import ReachMixture.Scalar

/-!
# Mixtures

A mixture is a list of weighted point masses over exposure-rate vectors.

- `Component`: a weight and a location.
- `Mixture`: components whose weights are finite and not negative. A mixture
  without components is the unfitted model.
- `Mixture.ofComponents`: the check behind every mixture.
-/

namespace ReachMixture

variable {α : Type} {m : Nat}

/-- A weighted location `weight * δ_location` with `m` coordinates, one per
identifier type. -/
structure Component (α : Type) (m : Nat) where
  /-- The mass at `location`. -/
  weight : α
  /-- Exposure rates per identifier type. -/
  location : Vector α m

/-- A weight is finite and not negative. Negative zero is a weight. -/
def IsWeight [Zero α] [LT α] [Scalar α] (w : α) : Prop :=
  Scalar.isFinite w = true ∧ ¬ w < 0

instance [Zero α] [LT α] [DecidableLT α] [Scalar α] (w : α) : Decidable (IsWeight w) :=
  inferInstanceAs (Decidable (_ ∧ _))

/-- A mixture `∑ j, w j * δ_{x j}` of point masses over `m` identifier types.
Every component carries its `IsWeight` proof. -/
structure Mixture (α : Type) (m : Nat) [Zero α] [LT α] [Scalar α] where
  /-- The weighted locations in order. -/
  components : List (Component α m)
  /-- All weights are finite and not negative. -/
  isWeight : ∀ c ∈ components, IsWeight c.weight

namespace Component

/-- Pairs `weights` with `locations`; a `shapeMismatch` of `part` if their
numbers differ. -/
def zip (part : Part) (weights : List α) (locations : List (Vector α m)) :
    Except (Fault α) (List (Component α m)) :=
  if weights.length = locations.length
    then .ok (List.zipWith Component.mk weights locations)
  else .error (.shapeMismatch part locations.length weights.length)

/-- `zip` with the rows of a table, whose rows are listed only after their
number is checked. -/
def zipTable (part : Part) (weights : List α) (locations : Table α) :
    Except (Fault α) (List (Component α locations.cols)) :=
  if weights.length = locations.rows
    then .ok (List.zipWith Component.mk weights locations.rowList)
  else .error (.shapeMismatch part locations.rows weights.length)

/-- Checks `IsWeight` of every component, counting from `index`; `badWeight`
names the first that fails. Success carries the proof that a `Mixture` asks for. -/
def checkWeights [Zero α] [LT α] [DecidableLT α] [Scalar α] (index : Nat) :
    (components : List (Component α m)) →
      Except (Fault α) (PLift (∀ c ∈ components, IsWeight c.weight))
  | [] => .ok ⟨by simp⟩
  | c :: rest =>
    if h : IsWeight c.weight then
      (checkWeights (index + 1) rest).map fun hs => ⟨List.forall_mem_cons.2 ⟨h, hs.down⟩⟩
    else .error (.badWeight index c.weight)

end Component

namespace Mixture

section

variable [Zero α] [LT α] [Scalar α]

/-- The mixture without components over `m` identifier types. -/
def empty (m : Nat) : Mixture α m := ⟨[], by simp⟩

/-- The weights, in the order of `components`. -/
def weights (x : Mixture α m) : List α := x.components.map Component.weight

/-- The locations, in the order of `components`. -/
def locations (x : Mixture α m) : List (Vector α m) := x.components.map Component.location

/-- The number of components. -/
def size (x : Mixture α m) : Nat := x.components.length

/-- Whether `components` is empty. -/
def isEmpty (x : Mixture α m) : Bool := x.components.isEmpty

end

variable [Zero α] [LT α] [DecidableLT α] [Scalar α]

/-- The mixture with the given components; `badWeight` if `checkWeights` finds
one that is not a weight. -/
def ofComponents (components : List (Component α m)) : Except (Fault α) (Mixture α m) :=
  (Component.checkWeights 0 components).map fun h => ⟨components, h.down⟩

/-- The mixture of `weights` at the rows of `locations`. The numbers are
compared before any weight is checked. -/
def ofTable (weights : List α) (locations : Table α) :
    Except (Fault α) (Mixture α locations.cols) := do
  ofComponents (← Component.zipTable .mixtureWeights weights locations)

end Mixture

end ReachMixture
