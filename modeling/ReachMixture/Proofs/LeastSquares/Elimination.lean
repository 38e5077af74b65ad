import ReachMixture.LeastSquares.Pivots
import ReachMixture.Proofs.Arithmetic
import ReachMixture.Proofs.Linear.Sums

/-!
# Symmetric elimination

Elimination with positive pivots answers for positive definite systems and for
no others, and what it answers is the solution. Taking the first pivot out of
the quadratic form of a symmetric matrix leaves a square and the form of a
smaller matrix, the *complement* of the pivot; everything follows from that by
induction on the size.

- `PositiveDefinite`: symmetric matrices with a positive quadratic form.
- `complement`, `form_succ`: the matrix that is left when the first pivot is
  eliminated, and how the forms are related.
- `ExactElimination`: what is to be shown of `solvePivots`. `exactElimination`
  shows it, for exact square roots.
-/

namespace ReachMixture.LeastSquares

variable {α : Type} {k : Nat}

section Definitions

variable [Field α] [LinearOrder α]

/-- `mᵀ = m`. -/
def IsSymmetric (m : Vector (Vector α k) k) : Prop :=
  ∀ i j, (m.get i).get j = (m.get j).get i

/-- The quadratic form `yᵀ m y`. -/
def form (m : Vector (Vector α k) k) (y : Fin k → α) : α :=
  ∑ i, ∑ j, y i * (m.get i).get j * y j

/-- A symmetric matrix with `yᵀ m y > 0` for all `y ≠ 0`. -/
structure PositiveDefinite (m : Vector (Vector α k) k) : Prop where
  symm : IsSymmetric m
  pos : ∀ y, y ≠ 0 → 0 < form m y

/-- `solvePivots` succeeds exactly on positive definite matrices among the
symmetric ones, and then it solves the system. -/
def ExactElimination (α : Type) [Field α] [LinearOrder α] [Scalar α] : Prop :=
  ∀ {k : Nat} (m : Vector (Vector α k) k) (b : Vector α k), IsSymmetric m →
    ((∃ z, solvePivots m b = some z) ↔ PositiveDefinite m) ∧
    ∀ z, solvePivots m b = some z → ∀ i, Vec.dot (m.get i) z = b.get i

variable [Scalar α]

/-- The square root of the first pivot. -/
def pivotRoot (m : Vector (Vector α (k + 1)) (k + 1)) : α := Scalar.sqrt ((m.get 0).get 0)

/-- The first column below the pivot, divided by `pivotRoot`: the first column
of the Cholesky factor. -/
def pivotColumn (m : Vector (Vector α (k + 1)) (k + 1)) : Vector α k :=
  Vector.ofFn fun i => (m.get i.succ).get 0 / pivotRoot m

/-- The Schur complement, which is left when the first pivot is eliminated. -/
def complement (m : Vector (Vector α (k + 1)) (k + 1)) : Vector (Vector α k) k :=
  Vector.ofFn fun i => Vector.ofFn fun j =>
    (m.get i.succ).get j.succ - (pivotColumn m).get i * (pivotColumn m).get j

/-- The right-hand side that is left when the first pivot is eliminated. -/
def remainder (m : Vector (Vector α (k + 1)) (k + 1))
    (b : Vector α (k + 1)) : Vector α k :=
  Vector.ofFn fun i => b.get i.succ - b.get 0 / pivotRoot m * (pivotColumn m).get i

/-- The solution of the whole system from the solution `z` of the smaller one. -/
def backSubstitute (m : Vector (Vector α (k + 1)) (k + 1))
    (b : Vector α (k + 1)) (z : Vector α k) :
    Vector α (k + 1) :=
  Vector.ofFn fun i =>
    Fin.cases ((b.get 0 / pivotRoot m - Vec.dot (pivotColumn m) z) / pivotRoot m)
      (fun j => z.get j) i

theorem solvePivots_succ (m : Vector (Vector α (k + 1)) (k + 1)) (b : Vector α (k + 1)) :
    solvePivots m b =
      if 0 < (m.get 0).get 0 then (solvePivots (complement m) (remainder m b)).map
        (backSubstitute m b) else none := rfl

end Definitions

variable [Field α] [LinearOrder α] [Scalar α]

omit [LinearOrder α] in
theorem complement_get (m : Vector (Vector α (k + 1)) (k + 1)) (i j : Fin k) :
    ((complement m).get i).get j =
      (m.get i.succ).get j.succ - (pivotColumn m).get i * (pivotColumn m).get j := by
  simp only [complement, Vector.get_ofFn]

omit [LinearOrder α] in
theorem IsSymmetric.complement {m : Vector (Vector α (k + 1)) (k + 1)}
    (h : IsSymmetric m) :
    IsSymmetric (complement m) := by
  intro i j
  rw [complement_get, complement_get, h i.succ j.succ, mul_comm]

section Pivot

variable [IsStrictOrderedRing α] [ExactRoots α] {m : Vector (Vector α (k + 1)) (k + 1)}

omit [IsStrictOrderedRing α] in
theorem pivotRoot_ne_zero (hpos : 0 < (m.get 0).get 0) : pivotRoot m ≠ 0 := by
  intro hzero
  have hroot : pivotRoot m * pivotRoot m = (m.get 0).get 0 :=
    ExactRoots.sqrt_mul_sqrt hpos
  rw [hzero, zero_mul] at hroot
  exact hpos.ne hroot

omit [IsStrictOrderedRing α] in
theorem pivotColumn_mul_root (hpos : 0 < (m.get 0).get 0) (i : Fin k) :
    (pivotColumn m).get i * pivotRoot m = (m.get i.succ).get 0 := by
  rw [pivotColumn, Vector.get_ofFn]
  exact div_mul_cancel₀ _ (pivotRoot_ne_zero hpos)

omit [IsStrictOrderedRing α] in
/-- **Taking out a pivot**: `yᵀ m y` is a square plus the form of the
`complement`. -/
theorem form_succ (hsymm : IsSymmetric m) (hpos : 0 < (m.get 0).get 0)
    (y : Fin (k + 1) → α) :
    form m y = (pivotRoot m * y 0 + ∑ i, (pivotColumn m).get i * y i.succ) ^ 2 +
      form (complement m) fun i => y i.succ := by
  have hroot : pivotRoot m * pivotRoot m = (m.get 0).get 0 :=
    ExactRoots.sqrt_mul_sqrt hpos
  have hcolumn := pivotColumn_mul_root hpos
  have htop : ∑ j : Fin k, y 0 * (m.get 0).get j.succ * y j.succ =
      pivotRoot m * y 0 * ∑ i, (pivotColumn m).get i * y i.succ := by
    rw [Finset.mul_sum]
    refine Finset.sum_congr rfl fun j _ => ?_
    rw [hsymm 0 j.succ, ← hcolumn]
    ring
  have hleft : ∑ i : Fin k, y i.succ * (m.get i.succ).get 0 * y 0 =
      pivotRoot m * y 0 * ∑ i, (pivotColumn m).get i * y i.succ := by
    rw [Finset.mul_sum]
    refine Finset.sum_congr rfl fun i _ => ?_
    rw [← hcolumn]
    ring
  have hrest : ∑ i : Fin k, ∑ j : Fin k, y i.succ * (m.get i.succ).get j.succ * y j.succ =
      form (complement m) (fun i => y i.succ) +
        (∑ i, (pivotColumn m).get i * y i.succ) ^ 2 := by
    rw [form, sq, Finset.sum_mul_sum, ← Finset.sum_add_distrib]
    refine Finset.sum_congr rfl fun i _ => ?_
    rw [← Finset.sum_add_distrib]
    refine Finset.sum_congr rfl fun j _ => ?_
    rw [complement_get]
    ring
  -- the corner, the first row, the first column and what lies below
  calc form m y
      = y 0 * (m.get 0).get 0 * y 0 + ∑ j : Fin k, y 0 * (m.get 0).get j.succ * y j.succ +
          (∑ i : Fin k, y i.succ * (m.get i.succ).get 0 * y 0 +
            ∑ i : Fin k, ∑ j : Fin k,
              y i.succ * (m.get i.succ).get j.succ * y j.succ) := by
        simp only [form, Fin.sum_univ_succ, Finset.sum_add_distrib]
        ring
    _ = (pivotRoot m * y 0 + ∑ i, (pivotColumn m).get i * y i.succ) ^ 2 +
          form (complement m) fun i => y i.succ := by
        rw [htop, hleft, hrest, ← hroot]
        ring

omit [Scalar α] [ExactRoots α] in
/-- A positive definite matrix has a positive first pivot: the form at the first
unit vector. -/
theorem PositiveDefinite.pivot_pos (h : PositiveDefinite m) : 0 < (m.get 0).get 0 := by
  have hpos := h.pos (Pi.single 0 1) (by simp)
  simpa [form, Pi.single_apply] using hpos

/-- The `complement` is positive definite iff the whole matrix is, given a
positive first pivot. -/
theorem positiveDefinite_complement (hsymm : IsSymmetric m) (hpos : 0 < (m.get 0).get 0) :
    PositiveDefinite (complement m) ↔ PositiveDefinite m := by
  constructor
  · intro h
    refine ⟨hsymm, fun y hy => ?_⟩
    rw [form_succ hsymm hpos]
    by_cases hrest : (fun i => y (Fin.succ i)) = 0
    · -- only the first entry is left, and it counts with the pivot
      have hzero : ∀ i : Fin k, y i.succ = 0 := fun i => congrFun hrest i
      have hfirst : y 0 ≠ 0 := by
        intro hfirst
        exact hy (funext fun i => Fin.cases hfirst hzero i)
      have hsquare : 0 < (pivotRoot m * y 0) ^ 2 :=
        sq_pos_of_ne_zero (mul_ne_zero (pivotRoot_ne_zero hpos) hfirst)
      simpa [form, hzero] using hsquare
    · exact add_pos_of_nonneg_of_pos (sq_nonneg _) (h.pos _ hrest)
  · intro h
    refine ⟨hsymm.complement, fun y hy => ?_⟩
    -- the first entry can be chosen so that the square vanishes
    let first := -(∑ i, (pivotColumn m).get i * y i) / pivotRoot m
    have hne : (Fin.cons first y : Fin (k + 1) → α) ≠ 0 := by
      intro hzero
      exact hy (funext fun i => congrFun hzero i.succ)
    have hform := h.pos _ hne
    rw [form_succ hsymm hpos] at hform
    simpa [first, mul_div_cancel₀ _ (pivotRoot_ne_zero hpos)] using hform

omit [IsStrictOrderedRing α] in
/-- **Back substitution** turns a solution of the smaller system into one of the
whole. -/
theorem solved_backSubstitute (hsymm : IsSymmetric m)
    (hpos : 0 < (m.get 0).get 0) {b : Vector α (k + 1)} {z : Vector α k}
    (hz : ∀ i, Vec.dot ((complement m).get i) z = (remainder m b).get i)
    (i : Fin (k + 1)) :
    Vec.dot (m.get i) (backSubstitute m b z) = b.get i := by
  have hroot : pivotRoot m * pivotRoot m = (m.get 0).get 0 :=
    ExactRoots.sqrt_mul_sqrt hpos
  have hcolumn := pivotColumn_mul_root hpos
  have hlead : pivotRoot m * (b.get 0 / pivotRoot m) = b.get 0 :=
    mul_div_cancel₀ _ (pivotRoot_ne_zero hpos)
  have hfirst : pivotRoot m * (backSubstitute m b z).get 0 =
      b.get 0 / pivotRoot m - ∑ j, (pivotColumn m).get j * z.get j := by
    rw [backSubstitute, Vector.get_ofFn, Fin.cases_zero,
      mul_div_cancel₀ _ (pivotRoot_ne_zero hpos), Vec.dot_eq]
  have hrest : ∀ j : Fin k, (backSubstitute m b z).get j.succ = z.get j := fun j => by
    rw [backSubstitute, Vector.get_ofFn, Fin.cases_succ]
  rw [Vec.dot_eq, Fin.sum_univ_succ]
  simp only [hrest]
  -- the first row determines the leading entry, the others are the equations of
  -- the `complement`
  induction i using Fin.cases with
  | zero =>
    have htop : ∑ j : Fin k, (m.get 0).get j.succ * z.get j =
        pivotRoot m * ∑ j, (pivotColumn m).get j * z.get j := by
      rw [Finset.mul_sum]
      refine Finset.sum_congr rfl fun j _ => ?_
      rw [hsymm 0 j.succ, ← hcolumn]
      ring
    rw [htop, ← hroot, mul_assoc, hfirst]
    linear_combination hlead
  | succ i =>
    have hbelow : ∑ j : Fin k, (m.get i.succ).get j.succ * z.get j =
        b.get i.succ - b.get 0 / pivotRoot m * (pivotColumn m).get i +
          (pivotColumn m).get i * ∑ j, (pivotColumn m).get j * z.get j := by
      have hi := hz i
      rw [remainder, Vector.get_ofFn, Vec.dot_eq] at hi
      rw [← hi, Finset.mul_sum, ← Finset.sum_add_distrib]
      refine Finset.sum_congr rfl fun j _ => ?_
      rw [complement_get]
      ring
    rw [hbelow, ← hcolumn, mul_assoc, hfirst]
    ring

/-- **Elimination is exact** if square roots are. By induction on the number of
columns, one pivot at a time. -/
theorem exactElimination : ExactElimination α := by
  intro k m b hsymm
  -- both claims go down to the complement together, because an answer there is
  -- an answer here
  induction k with
  | zero =>
    refine ⟨⟨fun _ => ⟨hsymm, fun y hy => absurd (Subsingleton.elim y 0) hy⟩,
      fun _ => ⟨_, rfl⟩⟩, ?_⟩
    intro z _ i
    exact i.elim0
  | succ k ih =>
    rw [solvePivots_succ]
    by_cases hpos : 0 < (m.get 0).get 0
    · obtain ⟨hsome, hsolved⟩ := ih (complement m) (remainder m b) hsymm.complement
      rw [if_pos hpos, ← positiveDefinite_complement hsymm hpos, ← hsome]
      simp only [Option.map_eq_some_iff]
      constructor
      · constructor
        · rintro ⟨_, z, hz, -⟩
          exact ⟨z, hz⟩
        · rintro ⟨z, hz⟩
          exact ⟨_, z, hz, rfl⟩
      · rintro _ ⟨z, hz, rfl⟩
        exact solved_backSubstitute hsymm hpos (hsolved z hz)
    · rw [if_neg hpos]
      constructor
      · constructor
        · rintro ⟨_, h⟩
          cases h
        · intro h
          exact absurd h.pivot_pos hpos
      · intro z h
        cases h

end Pivot

end ReachMixture.LeastSquares
