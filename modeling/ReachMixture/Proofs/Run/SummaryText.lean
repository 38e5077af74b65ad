import ReachMixture.Proofs.Decimal.RoundTrip
import ReachMixture.Proofs.Json
import ReachMixture.Run.Summary

/-!
# Texts of summaries

The text of a summary loses nothing: summaries of finite numbers that have the
same text are the same. Their documents have the same names in the same places,
so they can differ in their values only, and unique readability leaves no room
for that.

- `Summary.AllNumbers`: what all numbers of a summary have in common.
- `Summary.clean_toJson`: the document of a summary can be told from others.
- `Summary.toJson_injective`: a document has everything that is in the summary.
- `writesApart_finite`: the texts of finite numbers are told apart.
- `summary_of_text`: **the text of a summary loses nothing**.
-/

namespace ReachMixture

open Json

variable {α : Type} {P : α → Prop}

/-- All numbers of a summary satisfy `P`, those of its records included. -/
structure Summary.AllNumbers (P : α → Prop) (s : Summary α) : Prop where
  distance : P s.distance
  weights : ∀ x ∈ s.weights, P x
  locations : ∀ location ∈ s.locations, ∀ x ∈ location, P x
  trajectory : ∀ r ∈ s.trajectory, P r.weightSum ∧ P r.residualNorm

/-! ## The document of a summary -/

theorem clean_numbers {xs : List α} (h : ∀ x ∈ xs, P x) : Clean P (numbers xs) := by
  refine .list fun item hitem => ?_
  obtain ⟨x, hx, rfl⟩ := List.mem_map.mp hitem
  exact .number (h x hx)

theorem StepRecord.clean_toJson {r : StepRecord α}
    (h : P r.weightSum ∧ P r.residualNorm) : Clean P r.toJson := by
  refine .object ?_ ?_
  · simp only [List.forall_mem_cons]
    exact ⟨by decide, by decide, by decide, by decide,
      fun field hfield => absurd hfield List.not_mem_nil⟩
  · simp only [List.forall_mem_cons]
    exact ⟨.nat _, .nat _, .number h.1, .number h.2,
      fun field hfield => absurd hfield List.not_mem_nil⟩

theorem Summary.clean_toJson {s : Summary α} (h : s.AllNumbers P) : Clean P s.toJson := by
  refine .object ?_ ?_
  · simp only [List.forall_mem_cons]
    exact ⟨by decide, by decide, by decide, by decide, by decide, by decide, by decide,
      by decide, fun field hfield => absurd hfield List.not_mem_nil⟩
  · simp only [List.forall_mem_cons]
    refine ⟨.nat _, .nat _, .nat _, .nat _, .number h.distance, clean_numbers h.weights,
      .list ?_, .list ?_, fun field hfield => absurd hfield List.not_mem_nil⟩
    · intro item hitem
      obtain ⟨location, hlocation, rfl⟩ := List.mem_map.mp hitem
      exact clean_numbers (h.locations location hlocation)
    · intro item hitem
      obtain ⟨r, hr, rfl⟩ := List.mem_map.mp hitem
      exact StepRecord.clean_toJson (h.trajectory r hr)

theorem numbers_injective {xs ys : List α} (h : numbers xs = numbers ys) : xs = ys :=
  (List.map_inj_right fun _ _ => number.inj).mp (list.inj h)

theorem StepRecord.toJson_injective {r r' : StepRecord α}
    (h : r.toJson = r'.toJson) : r = r' := by
  cases r
  cases r'
  simp only [StepRecord.toJson, object.injEq, List.cons.injEq, Prod.mk.injEq, nat.injEq,
    number.injEq, true_and, and_true] at h
  obtain ⟨rfl, rfl, rfl, rfl⟩ := h
  rfl

/-- `Summary.toJson` is injective: everything in a summary is in its document. -/
theorem Summary.toJson_injective {s t : Summary α} (h : s.toJson = t.toJson) : s = t := by
  cases s
  cases t
  simp only [Summary.toJson, object.injEq, List.cons.injEq, Prod.mk.injEq, nat.injEq,
    number.injEq, list.injEq, true_and, and_true] at h
  obtain ⟨rfl, rfl, rfl, hseed, rfl, hweights, hlocations, htrajectory⟩ := h
  rw [UInt64.toNat_inj.mp hseed, numbers_injective hweights,
    (List.map_inj_right fun _ _ => numbers_injective).mp hlocations,
    (List.map_inj_right fun _ _ => StepRecord.toJson_injective).mp htrajectory]

/-! ## Finite numbers -/

/-- **Finite numbers have texts of their own**, which are not those of naturals.
By `read_write`, since what is read back cannot have been lost. -/
theorem writesApart_finite : WritesApart fun x : Float => x.isFinite = true where
  numeral x hx := by
    rw [show NumberText.value x = valueLayout.write x from if_pos hx]
    exact Decimal.isNumeral_write valueLayout x
  hasMark x hx := by
    rw [show NumberText.value x = valueLayout.write x from if_pos hx]
    exact Decimal.hasMark_write rfl x
  injective x y hx hy h := by
    rw [show NumberText.value x = valueLayout.write x from if_pos hx,
      show NumberText.value y = valueLayout.write y from if_pos hy] at h
    exact Decimal.write_injective valueLayout hx hy h

/-- **The text of a summary loses nothing.** Two summaries all of whose numbers
are finite are equal in every field if they have the same `text`, however long
their lists are and whether some of them are empty. -/
theorem summary_of_text (s t : Summary Float)
    (hs : s.AllNumbers fun x => x.isFinite = true)
    (ht : t.AllNumbers fun x => x.isFinite = true) (h : s.text = t.text) : s = t := by
  have hdocument : s.toJson = t.toJson :=
    eq_of_render_eq writesApart_finite (Summary.clean_toJson hs)
      (Summary.clean_toJson ht) h
  exact Summary.toJson_injective hdocument

/-- A summary with an empty row, a negative zero and the least positive number. -/
def sparseSummary (distance : Float) : Summary Float where
  rows := 2
  dims := 1
  steps := 3
  seed := 18446744073709551615
  distance := distance
  weights := [0.5, -0.0]
  locations := [[], [1e22]]
  trajectory := [⟨0, 2, 0.5, 5e-324⟩]

/-- `0.1 + 0.2` has the text of the number that it is, not that of `0.3`. -/
theorem summary_of_text_sparse :
    (sparseSummary (0.1 + 0.2)).text = (sparseSummary 0.30000000000000004).text ∧
    (sparseSummary (0.1 + 0.2)).text ≠ (sparseSummary 0.3).text ∧
    sparseSummary (0.1 + 0.2) = sparseSummary 0.30000000000000004 := by
  have hzero : (sparseSummary 0).AllNumbers fun x => x.isFinite = true :=
    ⟨by decide +kernel, by decide +kernel, by decide +kernel, by decide +kernel⟩
  have hfinite : ∀ distance : Float, distance.isFinite = true →
      (sparseSummary distance).AllNumbers fun x => x.isFinite = true :=
    fun distance h => ⟨h, hzero.weights, hzero.locations, hzero.trajectory⟩
  have htext : (sparseSummary (0.1 + 0.2)).text =
      (sparseSummary 0.30000000000000004).text := by decide +kernel
  refine ⟨htext, by decide +kernel, ?_⟩
  exact summary_of_text _ _ (hfinite _ (by decide +kernel))
    (hfinite _ (by decide +kernel)) htext

end ReachMixture
