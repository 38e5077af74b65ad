import ReachMixture.Proofs.Fit.Outcome
import ReachMixture.Proofs.Order
import ReachMixture.Proofs.Text.Lines
import ReachMixture.Report.Fit

/-!
# The list of components

A report lists the components of a mixture by weight, heaviest first. Weights
are compared as floating-point numbers, which form no order if undefined ones
are among them. The weights of a mixture are defined, so its components are
sorted indeed: none is lost, and those of equal weight keep their order.

- `IsHeaviestFirst`: orders of components in which no weight is followed by a
  larger one, and equal ones keep theirs.
- `mergeSort_finRange_stable`: the sort is stable.
- `exists_isHeaviestFirst`: components are listed in such an order.
- `isLine_componentLine`: every component takes one line.
- `componentLines_heaviest_first`: **the list of components**, and the text that
  it makes up.
-/

namespace ReachMixture.Report

open Text

variable {α : Type} {m : Nat}

/-- No list without repetitions has two entries in both orders. -/
theorem not_sublist_swap {β : Type} [DecidableEq β] {l : List β} (h : l.Nodup) {a b : β}
    (hab : [a, b].Sublist l) :
    ¬ [b, a].Sublist l := by
  have hpositions : l.Pairwise fun a b => l.idxOf a < l.idxOf b := by
    refine List.pairwise_iff_getElem.mpr fun i j hi hj hij => ?_
    rwa [h.idxOf_getElem i hi, h.idxOf_getElem j hj]
  intro hba
  have h₁ := List.pairwise_iff_forall_sublist.mp hpositions hab
  have h₂ := List.pairwise_iff_forall_sublist.mp hpositions hba
  omega

/-- `mergeSort` of positions is stable: positions that `le` does not tell apart
stay in ascending order. -/
theorem mergeSort_finRange_stable {n : Nat} {le : Fin n → Fin n → Bool}
    (htrans : ∀ i j k, le i j = true → le j k = true → le i k = true)
    (htotal : ∀ i j, (le i j || le j i) = true) :
    ((List.finRange n).mergeSort le).Pairwise fun i j => le j i = true → i < j := by
  refine List.pairwise_iff_forall_sublist.mpr fun {i j} hsorted hle => ?_
  have hnodup := (List.mergeSort_perm (List.finRange n) le).nodup_iff.mpr
    (List.nodup_finRange n)
  -- if `j` came before `i` in the beginning, it would still do so
  by_contra hlt
  have hne : j ≠ i := by
    rintro rfl
    simpa using hnodup.sublist hsorted
  have hpair : [j, i].Pairwise (· < ·) := by
    simpa using lt_of_le_of_ne (not_lt.mp hlt) hne
  have hbefore : [j, i].Sublist (List.finRange n) :=
    List.sublist_of_subperm_of_pairwise (List.subperm_of_subset hpair.nodup
      fun k _ => List.mem_finRange k) hpair (List.pairwise_lt_finRange n)
  exact not_sublist_swap hnodup hsorted
    (List.pair_sublist_mergeSort htrans htotal hle hbefore)

section Sorting

variable [LT α] [LE α]

/-- `order` lists every component once, no weight is followed by a larger one,
and components of equal weight keep their places relative to each other. -/
structure IsHeaviestFirst (components : List (Component α m))
    (order : List (Fin components.length)) : Prop where
  perm : order.Perm (List.finRange components.length)
  descending : order.Pairwise fun i j => (components.get j).weight ≤
    (components.get i).weight
  stable : order.Pairwise fun i j => (components.get i).weight ≤
    (components.get j).weight → i < j

variable [DecidableLT α]

/-- The comparison of `byWeight`, on positions: the component at `i` is not
lighter than the one at `j`. -/
def heavier (components : List (Component α m)) (i j : Fin components.length) : Bool :=
  !decide ((components.get i).weight < (components.get j).weight)

omit [LE α] in
/-- `byWeight` sorts positions, and then looks up the components. -/
theorem byWeight_eq_map_get (components : List (Component α m)) :
    byWeight components = ((List.finRange components.length).mergeSort
      (heavier components)).map components.get := by
  have hmap := List.map_mergeSort (r := heavier components) (f := components.get)
    (s := fun a b => !decide (a.weight < b.weight))
      (l := List.finRange components.length) fun _ _ _ _ => rfl
  rw [List.map_get_finRange] at hmap
  exact hmap.symm

variable [LawfulOrder α] {components : List (Component α m)}

/-- Among defined weights, not to be smaller is to be at least as large. -/
theorem heavier_iff (h : ∀ c ∈ components, c.weight ≤ c.weight)
    (i j : Fin components.length) :
    heavier components i j = true ↔
    (components.get j).weight ≤ (components.get i).weight := by
  rw [heavier, Bool.not_eq_true', decide_eq_false_iff_not]
  constructor
  · exact LawfulOrder.le_of_not_lt (h _ (List.get_mem components i))
      (h _ (List.get_mem components j))
  · exact fun hle hlt => (LawfulOrder.lt_iff.mp hlt).2 hle

/-- **Components with defined weights are sorted.** `heavier` is total and
transitive on them, so `mergeSort` gives an `IsHeaviestFirst` order. -/
theorem exists_isHeaviestFirst (h : ∀ c ∈ components, c.weight ≤ c.weight) :
    ∃ order, IsHeaviestFirst components order ∧
      byWeight components = order.map components.get := by
  have htrans : ∀ i j k, heavier components i j = true → heavier components j k = true →
      heavier components i k = true := by
    intro i j k hij hjk
    rw [heavier_iff h] at hij hjk ⊢
    exact LawfulOrder.trans hjk hij
  have htotal : ∀ i j, (heavier components i j || heavier components j i) = true := by
    intro i j
    rw [Bool.or_eq_true, heavier_iff h, heavier_iff h]
    exact LawfulOrder.total (h _ (List.get_mem components j))
      (h _ (List.get_mem components i))
  refine ⟨_, ⟨List.mergeSort_perm _ (heavier components), ?_, ?_⟩,
    byWeight_eq_map_get components⟩
  · exact (List.pairwise_mergeSort htrans htotal _).imp fun hij =>
      (heavier_iff h _ _).mp hij
  · exact (mergeSort_finRange_stable htrans htotal).imp fun hij hle =>
      hij ((heavier_iff h _ _).mpr hle)

end Sorting

/-! ## Lines -/

theorem isLine_locationText (places : Nat) (location : Vector Float m) :
    IsLine (locationText places location) := by
  have hcoordinates : ∀ s ∈ location.toList.map (NumberText.fixed places), IsLine s := by
    intro s hs
    obtain ⟨v, -, rfl⟩ := List.mem_map.mp hs
    exact isLine_fixed places v
  have hseparator : IsLine ", " := by decide
  exact (IsLine.append (by decide) (hseparator.intercalate hcoordinates)).append
    (by decide)

theorem isLine_componentLine (c : Component Float m) : IsLine (componentLine c) := by
  have hweight := (isLine_fixed 4 c.weight).padLeft 8
  exact ((((IsLine.append (by decide) hweight).append (by decide)).append
    (isLine_locationText 4 c.location)).append (by decide))

/-- **The list of components.** `componentLines` of a mixture without components
says so. Otherwise there is one `componentLine` for each component and nothing
else, in an order in which every component stands once, weights never increase,
and components of equal weight keep their places. The text can be taken apart
into these lines. -/
theorem componentLines_heaviest_first (x : Mixture Float m) :
    (x.components = [] → componentLines x = ["  (none)"] ∧
      unlines (componentLines x) = "  (none)\n") ∧
    (x.components ≠ [] → ∃ order, IsHeaviestFirst x.components order ∧
      componentLines x = order.map (fun i => componentLine (x.components.get i)) ∧
      (unlines (componentLines x)).toList.splitOn '\n' =
        order.map (fun i => (componentLine (x.components.get i)).toList) ++ [[]]) := by
  constructor
  · intro hnone
    have hlines : componentLines x = ["  (none)"] := by
      rw [componentLines, Mixture.isEmpty, hnone]
      rfl
    refine ⟨hlines, ?_⟩
    rw [hlines]
    decide
  · intro hsome
    -- weights of a mixture are not undefined, so sorting orders them
    have hdefined : ∀ c ∈ x.components, c.weight ≤ c.weight :=
      fun c hc => (LawfulOrder.defined_of_le (x.weight_nonneg c hc)).2
    obtain ⟨order, horder, hsorted⟩ := exists_isHeaviestFirst hdefined
    have hlines : componentLines x =
        order.map fun i => componentLine (x.components.get i) := by
      rw [componentLines, Mixture.isEmpty, List.isEmpty_eq_false_iff.mpr hsome,
        hsorted, List.map_map]
      rfl
    refine ⟨order, horder, hlines, ?_⟩
    rw [splitOn_unlines, hlines, List.map_map]
    · rfl
    · rw [hlines]
      intro line hline
      obtain ⟨i, -, rfl⟩ := List.mem_map.mp hline
      exact isLine_componentLine _

/-- Four components: a zero, two of equal weight, and a negative zero between
them. -/
def tiedMixture : Mixture Float 1 :=
  ⟨[⟨0.0, #v[1.5]⟩, ⟨0.5, #v[2.5]⟩, ⟨-0.0, #v[3.5]⟩, ⟨0.5, #v[4.5]⟩], by decide⟩

/-- Equal weights keep their order, and so do the two zeros although their signs
differ. -/
theorem componentLines_tied :
    tiedMixture.components ≠ [] ∧
    componentLines tiedMixture =
      ["    0.5000 * Delta([2.5000])", "    0.5000 * Delta([4.5000])",
      "    0.0000 * Delta([1.5000])", "   -0.0000 * Delta([3.5000])"] ∧
    ∃ order, IsHeaviestFirst tiedMixture.components order ∧
      componentLines tiedMixture =
        order.map (fun i => componentLine (tiedMixture.components.get i)) := by
  have hne : tiedMixture.components ≠ [] := List.cons_ne_nil _ _
  obtain ⟨order, horder, hlines, -⟩ := (componentLines_heaviest_first tiedMixture).2 hne
  have hsorted : byWeight tiedMixture.components =
      [⟨0.5, #v[2.5]⟩, ⟨0.5, #v[4.5]⟩, ⟨0.0, #v[1.5]⟩, ⟨-0.0, #v[3.5]⟩] := by
    simp +decide [tiedMixture, byWeight, List.mergeSort,
      List.MergeSort.Internal.splitInTwo_fst, List.MergeSort.Internal.splitInTwo_snd]
  refine ⟨hne, ?_, order, horder, hlines⟩
  change (byWeight tiedMixture.components).map componentLine = _
  rw [hsorted]
  decide +kernel

end ReachMixture.Report
