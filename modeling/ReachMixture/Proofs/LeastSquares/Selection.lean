import ReachMixture.Proofs.LeastSquares.Independence

/-!
# Problems with some of the columns

A trial does not look at the columns that it is made on. It picks rows and
columns of the normal equations that were formed once for the whole problem, and
falls back on the columns only where elimination has no answer. Both ways lead
to the same coefficients: what is picked are the normal equations of the problem
that has only the selected columns, and if elimination gets through them, then
their solution is the one that comes closest to the target.

- `gather`: the coefficients of some columns, the other way round than
  `scatter`.
- `Design.normal_select`: selecting columns and forming the normal equations
  commute, in whatever arithmetic.
- `Design.predict_scatter`, `Design.cost_scatter`, `Design.gradient_scatter`:
  with zeros for all other columns the whole problem and the restricted one are
  the same.
- `Design.Minimises`: coefficients that come closest to the target.
  `Design.minimises_of_gradient_eq_zero` finds them, and
  `Design.eq_of_minimises` says that there is only one choice for positive
  definite normal equations.
- `shortcut_minimises`: what this means for trials.
-/

namespace ReachMixture.LeastSquares

variable {α : Type} {n k : Nat}

/-! ## Entries of some columns -/

/-- The entries of `v` at the columns `idx`. `scatter idx` is its right inverse. -/
def gather (idx : List (Fin k)) (v : Vector α k) : Vector α idx.length :=
  Vector.ofFn fun p => v.get (idx.get p)

theorem gather_get (idx : List (Fin k)) (v : Vector α k) (p : Fin idx.length) :
    (gather idx v).get p = v.get (idx.get p) := by
  rw [gather, Vector.get_ofFn]

theorem vector_ext {u v : Vector α n} (h : ∀ i, u.get i = v.get i) : u = v :=
  Vector.ext fun i hi => h ⟨i, hi⟩

section Scatter

variable [Zero α] {idx : List (Fin k)}

theorem scatter_get_of_not_mem {i : Fin k} (h : i ∉ idx) (z : Vector α idx.length) :
    (scatter idx z).get i = 0 := by
  rw [scatter, Vector.get_ofFn, List.idxOf?_eq_none_iff.mpr h]
  rfl

theorem scatter_gather (h : idx.Nodup) {v : Vector α k}
    (hzero : ∀ i, i ∉ idx → v.get i = 0) :
    scatter idx (gather idx v) = v := by
  refine vector_ext fun i => ?_
  by_cases hi : i ∈ idx
  · obtain ⟨p, rfl⟩ := List.get_of_mem hi
    rw [scatter_get h, gather_get]
  · rw [scatter_get_of_not_mem hi, hzero i hi]

end Scatter

namespace Design

/-- **Selecting and multiplying commute**: rows and columns of `AᵀA` and `Aᵀb`
are the inner products of the selected columns. -/
theorem normal_select [Zero α] [Add α] [Mul α] (d : Design α n k) (idx : List (Fin k)) :
    d.normal.select idx = (d.select idx).normal := by
  refine congrArg₂ Normal.mk (vector_ext fun p => vector_ext fun q => ?_)
    (vector_ext fun p => ?_)
  · simp only [Design.normal, Design.select, Vector.get_map, Vector.get_ofFn]
  · simp only [Design.normal, Design.select, Vector.get_map, Vector.get_ofFn]

theorem columns_select (d : Design α n k) (idx : List (Fin k)) (p : Fin idx.length) :
    (d.select idx).columns.get p = d.columns.get (idx.get p) := by
  rw [select, Vector.get_ofFn]

section Exact

variable [Field α] (d : Design α n k) {idx : List (Fin k)}

/-- `A` at `scatter idx z` is the restricted matrix at `z`: columns with zero
coefficients do not matter. -/
theorem predict_scatter (h : idx.Nodup) (z : Vector α idx.length) :
    d.predict (scatter idx z) = (d.select idx).predict z := by
  refine vector_ext fun row => ?_
  rw [predict_get, predict_get]
  symm
  refine Fintype.sum_of_injective idx.get h.injective_get _ _ (fun i hi => ?_) fun p => ?_
  · have hmem : i ∉ idx := fun hmem => hi (List.get_of_mem hmem)
    rw [scatter_get_of_not_mem hmem, mul_zero]
  · rw [scatter_get h, columns_select]

theorem cost_scatter (h : idx.Nodup) (z : Vector α idx.length) :
    d.cost (scatter idx z) = (d.select idx).cost z := by
  rw [cost, cost, d.predict_scatter h]
  rfl

theorem gradient_scatter (h : idx.Nodup) (z : Vector α idx.length) (p : Fin idx.length) :
    (d.gradient (scatter idx z)).get (idx.get p) = ((d.select idx).gradient z).get p := by
  rw [gradient_get, gradient_get, d.predict_scatter h, columns_select]
  rfl

/-- Coefficients that vanish outside of `idx` cost the same in the restricted
problem. -/
theorem cost_gather (h : idx.Nodup) {x : Vector α k}
    (hzero : ∀ i, i ∉ idx → x.get i = 0) :
    (d.select idx).cost (gather idx x) = d.cost x := by
  rw [← d.cost_scatter h, scatter_gather h hzero]

/-- The gradient vanishes at a solution of the normal equations. -/
theorem gradient_eq_zero_of_solved {z : Vector α k} (h : d.normal.Solved z) (i : Fin k) :
    (d.gradient z).get i = 0 := by
  rw [← d.normal_gradient, Normal.gradient, Vector.get_ofFn, h i, sub_self]

/-- The `gap` of two points of the restricted problem is the `form` of its
normal equations at their difference. -/
theorem gap_select (idx : List (Fin k)) (x y : Vector α idx.length) :
    (d.select idx).gap x y =
      form (d.normal.select idx).gram fun p => y.get p - x.get p := by
  rw [d.form_gram, gap_eq]
  refine Finset.sum_congr rfl fun row _ => ?_
  rw [predict_sub]
  congr 1
  refine Finset.sum_congr rfl fun p _ => ?_
  rw [columns_select, mul_comm]
  rfl

end Exact

/-! ## Closest coefficients -/

section Minimises

variable [Field α] [LinearOrder α]

/-- No coefficients cost less than `z`. -/
def Minimises (d : Design α n k) (z : Vector α k) : Prop := ∀ y, d.cost z ≤ d.cost y

variable [IsStrictOrderedRing α] (d : Design α n k)

/-- A point at which the gradient vanishes minimises the cost. -/
theorem minimises_of_gradient_eq_zero {z : Vector α k}
    (h : ∀ i, (d.gradient z).get i = 0) : d.Minimises z := by
  intro y
  rw [d.cost_eq_add_gap (x := y) fun j => by rw [h j, zero_mul]]
  exact le_add_of_nonneg_right (d.gap_nonneg z y)

/-- **There is only one minimiser** if the normal equations are positive
definite: another one would cost more by the `form` of their difference. -/
theorem eq_of_minimises {idx : List (Fin k)}
    (hdefinite : PositiveDefinite (d.normal.select idx).gram)
    {y z : Vector α idx.length} (hz : ∀ p, ((d.select idx).gradient z).get p = 0)
    (hy : (d.select idx).Minimises y) :
    y = z := by
  by_contra hne
  have hdiffer : (fun p => y.get p - z.get p) ≠ 0 := fun hzero =>
    hne (vector_ext fun p => sub_eq_zero.mp (congrFun hzero p))
  have hgap : 0 < (d.select idx).gap z y := by
    rw [d.gap_select]
    exact hdefinite.pos _ hdiffer
  have hcost := (d.select idx).cost_eq_add_gap (x := y) fun p => by rw [hz p, zero_mul]
  have hle := hy z
  linarith

end Minimises

end Design

/-! ## Trials -/

variable [Field α] [LinearOrder α] [IsStrictOrderedRing α] [Scalar α]
  [ExactScalar α] [ExactRoots α]

/-- **The shortcut through the normal equations is least squares on the selected
columns.** `Normal.select` of all normal equations is the `normal` of the
selected columns. If `solvePivots` solves it, then the solution minimises the
restricted problem, and nothing else does. So the trial of `gramSolve` is the
one that any minimising fallback would have led to, and at `scatter idx z`, with
zeros for the columns that were not selected, the gradient vanishes at those
that were. -/
theorem shortcut_minimises (d : Design α n k) (idx : List (Fin k))
    (hidx : idx.Pairwise (· < ·)) :
    d.normal.select idx = (d.select idx).normal ∧
    ∀ z, solvePivots (d.normal.select idx).gram
        (d.normal.select idx).correlation = some z →
      (d.select idx).Minimises z ∧
      (∀ y, (d.select idx).Minimises y → y = z) ∧
      (∀ fallback : {n k : Nat} → Design α n k → Option (Vector α k),
        (gramSolve fallback).trial d d.normal idx = some (scatter idx z) ∧
        ∀ y, fallback (d.select idx) = some y → (d.select idx).Minimises y →
          (gramSolve fallback).trial d d.normal idx = some (scatter idx y)) ∧
      ∀ i ∈ idx, (d.gradient (scatter idx z)).get i = 0 := by
  have hnodup : idx.Nodup := hidx.imp fun hlt => hlt.ne
  refine ⟨d.normal_select idx, fun z hz => ?_⟩
  obtain ⟨hdefinite, hsolved⟩ :=
    exactElimination (d.normal.select idx).gram (d.normal.select idx).correlation
      (d.isSymmetric_gram idx)
  have hstationary : ∀ p, ((d.select idx).gradient z).get p = 0 := by
    refine (d.select idx).gradient_eq_zero_of_solved ?_
    rw [← d.normal_select]
    exact hsolved z hz
  -- an answer of `solvePivots` shows that the Gram matrix is positive definite
  have hunique : ∀ y, (d.select idx).Minimises y → y = z := fun y =>
    d.eq_of_minimises (hdefinite.mp ⟨z, hz⟩) hstationary
  have htrial : ∀ fallback : {n k : Nat} → Design α n k → Option (Vector α k),
      (gramSolve fallback).trial d d.normal idx = some (scatter idx z) := by
    intro fallback
    rw [gramSolve_trial, Normal.direct_eq, hz]
    rfl
  refine ⟨(d.select idx).minimises_of_gradient_eq_zero hstationary, hunique,
    fun fallback => ⟨htrial fallback, ?_⟩, ?_⟩
  · intro y _ hy
    rw [hunique y hy]
    exact htrial fallback
  · intro i hi
    obtain ⟨p, rfl⟩ := List.get_of_mem hi
    rw [d.gradient_scatter hnodup]
    exact hstationary p

/-- Three columns, two of which are the same. -/
noncomputable def doubledDesign : Design ℝ 3 3 :=
  ⟨#v[#v[0, 1, 0], #v[0, 1, 0], #v[0, 1, 1]], #v[1, 0, 1]⟩

theorem doubledDesign_solved :
    solvePivots (doubledDesign.normal.select [0, 2]).gram
        (doubledDesign.normal.select [0, 2]).correlation =
      some (#v[-1, 1] : Vector ℝ 2) := by
  -- both pivots are one, and so are their roots
  have hdone : ∀ (m : Vector (Vector ℝ 0) 0) (b : Vector ℝ 0),
      solvePivots m b = some #v[] := fun _ _ => rfl
  refine (solvePivots_succ (k := 1) _ _).trans ?_
  simp [solvePivots_succ (k := 0), hdone, complement, remainder, backSubstitute,
    pivotRoot, pivotColumn, doubledDesign, Design.normal, Normal.select, Vec.dot,
    Vec.sum, Fin.foldl_succ, Vector.get_eq_getElem, Scalar.sqrt, Array.ofFn_succ']

/-- One of the equal columns of `doubledDesign` and the third make up all of the
target but its first entry, in one way only. -/
theorem shortcut_minimises_doubled :
    ([0, 2] : List (Fin 3)).Pairwise (· < ·) ∧
    solvePivots (doubledDesign.normal.select [0, 2]).gram
        (doubledDesign.normal.select [0, 2]).correlation =
      some (#v[-1, 1] : Vector ℝ 2) ∧
    (doubledDesign.select [0, 2]).Minimises (#v[-1, 1] : Vector ℝ 2) ∧
    (∀ y, (doubledDesign.select [0, 2]).Minimises y → y = (#v[-1, 1] : Vector ℝ 2)) ∧
    ∀ i ∈ ([0, 2] : List (Fin 3)),
      (doubledDesign.gradient (scatter [0, 2] (#v[-1, 1] : Vector ℝ 2))).get i = 0 := by
  have hidx : ([0, 2] : List (Fin 3)).Pairwise (· < ·) := by decide
  obtain ⟨hmin, hunique, -, hgradient⟩ :=
    (shortcut_minimises doubledDesign [0, 2] hidx).2 _ doubledDesign_solved
  exact ⟨hidx, doubledDesign_solved, hmin, hunique, hgradient⟩

end ReachMixture.LeastSquares
