import ReachMixture.Fit.Observations
import ReachMixture.Fit.Candidates
import ReachMixture.Run.Config
import ReachMixture.Run.Failure

/-!
# Made-up problems

Audiences get identifier counts drawn evenly between zero and one; the target is
the reach that a known mixture predicts for them. The answer of such a problem
is known.

- `Truth`, `truthMixture`: the mixture of the settings.
- `Problem`, `Problem.generate`: the problem of the settings.
-/

namespace ReachMixture

variable {α : Type}

/-- A made-up problem with its answer. -/
structure Problem (α : Type) [Zero α] [LT α] [Scalar α] where
  /-- The audiences and their reach. -/
  observations : Observations α
  /-- The mixture that generated `observations.target`. -/
  truth : Mixture α observations.dims

/-- A mixture over at least one identifier type. -/
structure Truth (α : Type) [Zero α] [LT α] [Scalar α] where
  /-- The number of identifier types. -/
  dims : Nat
  /-- There is an identifier type. -/
  dims_pos : 0 < dims
  /-- The mixture. -/
  mixture : Mixture α dims

/-- The proof that all rows have length `cols`, or else the length of the first
row that has another one. -/
def checkEven (cols : Nat) :
    (rows : List (List α)) → Except Nat (PLift (∀ row ∈ rows, row.length = cols))
  | [] => .ok ⟨by simp⟩
  | row :: rest =>
    if h : row.length = cols then
      (checkEven cols rest).map fun hs => ⟨List.forall_mem_cons.2 ⟨h, hs.down⟩⟩
    else .error row.length

theorem length_flatten_of_even {rows : List (List α)} {cols : Nat}
    (h : ∀ row ∈ rows, row.length = cols) : rows.flatten.length = rows.length * cols := by
  rw [List.length_flatten, List.map_congr_left h, List.map_const', List.sum_replicate_nat]

section

variable [Zero α] [LT α] [DecidableLT α] [Scalar α]

/-- The mixture of the settings. All locations must have as many coordinates as
the first; they are then flattened and put into a table by `Table.ofEntries`. -/
def truthMixture (c : RunConfig α) : Except (Failure α) (Truth α) :=
  match c.truthLocations with
  | [] => .error (.problem .noLocations)
  | first :: rest =>
    if h : 0 < first.length then do
      let even ← (checkEven first.length (first :: rest)).mapError fun found =>
        .problem (.unevenLocations first.length found)
      let locations := Table.ofEntries (first :: rest).length first.length
        (first :: rest).flatten (length_flatten_of_even even.down)
      let mixture ← refusedBy (Mixture.ofTable c.truthWeights locations)
      return ⟨first.length, h, mixture⟩
    else .error (.problem .noCoordinates)

variable [Add α] [Mul α] [Neg α]

/-- The problem of the settings, drawn from the stream of their seed. The signal
is a block of `rows * dims` numbers, and its prediction by the true mixture
takes those of `Mixture.evaluate`. -/
def Problem.generate (γ : Type) [RandomSource γ α] (c : RunConfig α) :
    Except (Failure α) (Problem α) :=
  if h : 0 < c.rows then do
    let truth ← truthMixture c
    let (signal, _) ← refusedBy
      (drawUniform c.rows truth.dims (RandomSource.seeded α c.seed : γ))
    let target ← refusedBy (truth.mixture.evaluate signal)
    return { observations := ⟨c.rows, truth.dims, signal, target, h, truth.dims_pos⟩
             truth := truth.mixture }
  else .error (.problem .noRows)

end

end ReachMixture
