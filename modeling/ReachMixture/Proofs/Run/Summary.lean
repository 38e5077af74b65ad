import ReachMixture.Proofs.Run.Success
import ReachMixture.Run.Summary

/-!
# Summaries of mixtures

A summary lists the locations of a mixture row by row. The rows of settings come
back from it as they are, although `truthMixture` writes them one after another
into a table on the way. For that they must all be as long as the table is wide.
Rows of other lengths may add up to as many entries, but they are not the rows
of the table.

- `Summary.lengths`: the lists of a summary fit together.
- `summary_of_truth`: **rows survive** in the summary of the mixture of
  settings.
-/

namespace ReachMixture

variable {α : Type}

/-- In a summary of a mixture, weights and locations are equally many, and all
locations have `dims` coordinates. -/
theorem Summary.lengths [Zero α] [LT α] [Scalar α] {m : Nat} (c : RunConfig α)
    (x : Mixture α m) (distance : α) (trajectory : List (StepRecord α)) :
    (Summary.of c x distance trajectory).weights.length =
      (Summary.of c x distance trajectory).locations.length ∧
    ∀ row ∈ (Summary.of c x distance trajectory).locations,
      row.length = (Summary.of c x distance trajectory).dims := by
  constructor
  · exact x.length_weights.trans (List.length_map _).symm
  · intro row hrow
    obtain ⟨location, -, rfl⟩ := List.mem_map.mp hrow
    exact Vector.length_toList

section Truth

variable [Zero α] [One α] [Add α] [Div α] [LT α] [LE α] [DecidableLT α] [NatCast α]
  [Scalar α] [LawfulStart α]

/-- **Rows survive.** Settings have a `truthMixture` iff they list locations,
the first of which has coordinates and the others as many, and one finite weight
that is not negative for each. Its summary lists the same locations and weights,
with the common number of coordinates, and it is the mixture of the table that
`Table.ofEntries` makes of the flattened coordinates. From such a table the
locations come back only if they are all of one length, whatever their lengths
add up to. In the summary of any mixture there are as many weights as locations,
and all of these have `dims` coordinates. -/
theorem summary_of_truth (c : RunConfig α) :
    ((∃ truth, truthMixture c = .ok truth) ↔ c.IsTruth) ∧
    (∀ truth, truthMixture c = .ok truth → ∀ distance trajectory,
      (Summary.of c truth.mixture distance trajectory).locations = c.truthLocations ∧
      (Summary.of c truth.mixture distance trajectory).weights = c.truthWeights ∧
      (∀ row ∈ c.truthLocations,
        row.length = (Summary.of c truth.mixture distance trajectory).dims) ∧
      ∃ hlength x, Mixture.ofTable c.truthWeights
          (.ofEntries c.truthLocations.length c.dims c.truthLocations.flatten hlength) =
            .ok x ∧
        Summary.of c x distance trajectory =
          Summary.of c truth.mixture distance trajectory) ∧
    (∀ cols hlength, (Table.ofEntries c.truthLocations.length cols
        c.truthLocations.flatten hlength).toLists =
      c.truthLocations ↔ ∀ row ∈ c.truthLocations, row.length = cols) ∧
    ∀ {m : Nat} (x : Mixture α m) distance trajectory,
      (Summary.of c x distance trajectory).weights.length =
        (Summary.of c x distance trajectory).locations.length ∧
      ∀ row ∈ (Summary.of c x distance trajectory).locations,
        row.length = (Summary.of c x distance trajectory).dims := by
  refine ⟨exists_truthMixture_iff, ?_, fun cols => Table.toLists_ofEntries_iff,
    fun {m} => Summary.lengths c⟩
  intro truth htruth distance trajectory
  obtain ⟨-, hweights, hlocations⟩ := truthMixture_eq_ok_iff.mp htruth
  have hdims := dims_of_truthMixture htruth
  have heven : ∀ row ∈ c.truthLocations, row.length = truth.dims := by
    rw [← hlocations]
    exact (Summary.lengths c truth.mixture distance trajectory).2
  refine ⟨hlocations, hweights, heven, ?_⟩
  rw [← hdims]
  exact ⟨length_flatten_of_even heven, truth.mixture,
    (Mixture.ofTable_ofEntries_eq_ok_iff heven).mpr ⟨hweights, hlocations⟩, rfl⟩

end Truth

/-- Two locations with three coordinates each. -/
def wideRun : RunConfig Float :=
  { emptyRun with
    truthLocations := [[1.0, 2.0, 3.0], [4.0, 0.0 / 0.0, 6.0]]
    truthWeights := [0.25, -0.0] }

/-- Three uneven locations, with as many coordinates in all as if each had two. -/
def unevenRun : RunConfig Float :=
  { emptyRun with
    truthLocations := [[1.0, 2.0], [3.0], [4.0, 5.0, 6.0]]
    truthWeights := [0.5, 0.5, 0.5] }

/-- Two locations of three coordinates come back as they are, and not as three
of two, with an undefined coordinate and a negative zero among the weights.
Three uneven locations have no mixture although there are enough coordinates. -/
theorem summary_of_truth_wide :
    (∃ truth, truthMixture wideRun = .ok truth ∧
      (Summary.of wideRun truth.mixture 0.0 []).locations =
        [[1.0, 2.0, 3.0], [4.0, 0.0 / 0.0, 6.0]] ∧
      (Summary.of wideRun truth.mixture 0.0 []).weights = [0.25, -0.0] ∧
      (Summary.of wideRun truth.mixture 0.0 []).dims = 3) ∧
    unevenRun.truthLocations.flatten.length =
      unevenRun.truthLocations.length * unevenRun.dims ∧
    ∀ truth, truthMixture unevenRun ≠ .ok truth := by
  obtain ⟨hwide, hsummary, -⟩ := summary_of_truth wideRun
  obtain ⟨huneven, -⟩ := summary_of_truth unevenRun
  have hproblem : wideRun.IsProblem := by decide
  obtain ⟨truth, htruth⟩ := hwide.mpr hproblem.toIsTruth
  obtain ⟨hlocations, hweights, hdims, -⟩ := hsummary truth htruth 0.0 []
  refine ⟨⟨truth, htruth, hlocations, hweights, ?_⟩, rfl, ?_⟩
  · exact (hdims [1.0, 2.0, 3.0] List.mem_cons_self).symm
  · intro truth htruth
    have hlength := (huneven.mp ⟨truth, htruth⟩).length_location [3.0]
      (by simp [unevenRun])
    exact absurd hlength (by decide)

end ReachMixture
