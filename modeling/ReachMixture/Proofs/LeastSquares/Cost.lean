import ReachMixture.LeastSquares.Pivots
import ReachMixture.Proofs.Linear.Sums

/-!
# The cost of a least squares problem

What an active-set run is measured by: the squared distance `‖A x - b‖²` and its
slope, read in exact ordered arithmetic.

- `Design.cost`, `Design.gradient`: `‖A x - b‖²` and `Aᵀ(b - A x)`. The run
  itself reads the gradient off the normal equations; `Design.normal_gradient`
  says that this is the same.
- `Normal.Solved`, `Normal.SolvedOn`: solutions of normal equations, and of
  those of some columns only.
- `Design.cost_expand`: the cost at one point in terms of cost and gradient at
  another.
- `Design.cost_segment`: the cost on the way to a point whose gradient vanishes
  along the way.
- `Design.cost_le_of_segment`: the cost is convex.
- `Design.cost_le_of_gradient_le`: a point that is stationary where it is
  positive and nowhere steeper than a tolerance is optimal up to that tolerance.
-/

namespace ReachMixture.LeastSquares

variable {α : Type} {n k : Nat}

section Definitions

variable [Zero α] [Add α] [Mul α]

/-- `z` solves the normal equations `(AᵀA) z = Aᵀb`. -/
def Normal.Solved (e : Normal α k) (z : Vector α k) : Prop :=
  ∀ i, Vec.dot (e.gram.get i) z = e.correlation.get i

/-- The entries of `z` at the columns `idx` solve the normal equations of these
columns. -/
def Normal.SolvedOn (e : Normal α k) (idx : List (Fin k)) (z : Vector α k) : Prop :=
  (e.select idx).Solved (Vector.ofFn fun p => z.get (idx.get p))

instance [DecidableEq α] (e : Normal α k) (z : Vector α k) : Decidable (e.Solved z) :=
  inferInstanceAs (Decidable (∀ i, Vec.dot (e.gram.get i) z = e.correlation.get i))

instance [DecidableEq α] (e : Normal α k) (idx : List (Fin k)) (z : Vector α k) :
    Decidable (e.SolvedOn idx z) :=
  inferInstanceAs (Decidable (Normal.Solved _ _))

variable [Sub α]

/-- The squared residual `‖A x - b‖²`. -/
def Design.cost (d : Design α n k) (x : Vector α k) : α :=
  let r := Vector.zipWith (· - ·) (d.predict x) d.target
  Vec.dot r r

/-- `Aᵀ(b - A x)`: the inner products of the columns with what is left of the
target. -/
def Design.gradient (d : Design α n k) (x : Vector α k) : Vector α k :=
  let r := Vector.zipWith (· - ·) d.target (d.predict x)
  d.columns.map fun c => Vec.dot c r

/-- `‖A y - A x‖²`: the squared distance of two predictions. -/
def Design.gap (d : Design α n k) (x y : Vector α k) : α :=
  let r := Vector.zipWith (· - ·) (d.predict y) (d.predict x)
  Vec.dot r r

end Definitions

theorem get_zipWith {β γ : Type} (f : α → β → γ) (u : Vector α n)
    (v : Vector β n) (i : Fin n) :
    (Vector.zipWith f u v).get i = f (u.get i) (v.get i) := by
  simp [Vector.get_eq_getElem]

namespace Design

section Exact

variable [Field α] (d : Design α n k)

theorem predict_get (x : Vector α k) (row : Fin n) :
    (d.predict x).get row = ∑ j, (d.columns.get j).get row * x.get j := by
  rw [predict, Vector.get_ofFn, Vec.sum_eq]

theorem cost_eq (x : Vector α k) :
    d.cost x = ∑ row, ((d.predict x).get row - d.target.get row) ^ 2 := by
  simp only [cost, Vec.dot_eq, get_zipWith, sq]

theorem gap_eq (x y : Vector α k) :
    d.gap x y = ∑ row, ((d.predict y).get row - (d.predict x).get row) ^ 2 := by
  simp only [gap, Vec.dot_eq, get_zipWith, sq]

theorem gradient_get (x : Vector α k) (j : Fin k) :
    (d.gradient x).get j =
      ∑ row, (d.columns.get j).get row * (d.target.get row - (d.predict x).get row) := by
  simp only [gradient, Vector.get_map, Vec.dot_eq, get_zipWith]

theorem predict_sub (x y : Vector α k) (row : Fin n) :
    (d.predict y).get row - (d.predict x).get row =
      ∑ j, (d.columns.get j).get row * (y.get j - x.get j) := by
  rw [predict_get, predict_get, ← Finset.sum_sub_distrib]
  exact Finset.sum_congr rfl fun j _ => (mul_sub _ _ _).symm

/-- `Normal.gradient`, which a run reads off the normal equations, is
`Design.gradient`. -/
theorem normal_gradient (x : Vector α k) : d.normal.gradient x = d.gradient x := by
  refine Vector.ext fun i hi => ?_
  show (d.normal.gradient x).get ⟨i, hi⟩ = (d.gradient x).get ⟨i, hi⟩
  rw [gradient_get, Normal.gradient, Vector.get_ofFn]
  simp only [normal, Vector.get_map, Vec.dot_eq, predict_get, mul_sub,
    Finset.sum_sub_distrib, Finset.mul_sum, Finset.sum_mul]
  rw [Finset.sum_comm]
  congr 1
  exact Finset.sum_congr rfl fun row _ => Finset.sum_congr rfl fun j _ => mul_assoc _ _ _

/-- The gradient depends on a point through its prediction only. -/
theorem gradient_congr {x y : Vector α k}
    (h : ∀ row, (d.predict x).get row = (d.predict y).get row) (j : Fin k) :
    (d.gradient x).get j = (d.gradient y).get j := by
  rw [gradient_get, gradient_get]
  exact Finset.sum_congr rfl fun row _ => by rw [h row]

theorem gap_comm (x y : Vector α k) : d.gap x y = d.gap y x := by
  rw [gap_eq, gap_eq]
  exact Finset.sum_congr rfl fun row _ => by ring

/-- **Expansion of the cost**: `‖A y - b‖² = ‖A x - b‖² - 2 ⟨gradient x, y - x⟩
+ ‖A y - A x‖²`. -/
theorem cost_expand (x y : Vector α k) :
    d.cost y = d.cost x - 2 * ∑ j,
      (d.gradient x).get j * (y.get j - x.get j) + d.gap x y := by
  have hslope : ∑ j, (d.gradient x).get j * (y.get j - x.get j) =
      ∑ row, (d.target.get row - (d.predict x).get row) *
        ((d.predict y).get row - (d.predict x).get row) := by
    calc ∑ j, (d.gradient x).get j * (y.get j - x.get j)
        = ∑ j, ∑ row, (d.columns.get j).get row *
            (d.target.get row - (d.predict x).get row) * (y.get j - x.get j) := by
          refine Finset.sum_congr rfl fun j _ => ?_
          rw [gradient_get, Finset.sum_mul]
      _ = ∑ row, ∑ j, (d.columns.get j).get row *
            (d.target.get row - (d.predict x).get row) * (y.get j - x.get j) :=
          Finset.sum_comm
      _ = ∑ row, (d.target.get row - (d.predict x).get row) *
            ((d.predict y).get row - (d.predict x).get row) := by
          refine Finset.sum_congr rfl fun row _ => ?_
          rw [predict_sub, Finset.mul_sum]
          exact Finset.sum_congr rfl fun j _ => by ring
  rw [hslope, cost_eq, cost_eq, gap_eq, Finset.mul_sum, ← Finset.sum_sub_distrib,
    ← Finset.sum_add_distrib]
  exact Finset.sum_congr rfl fun row _ => by ring

/-- If the slope at `z` vanishes towards `x`, then `x` costs more than `z` by
`d.gap z x`. -/
theorem cost_eq_add_gap {x z : Vector α k}
    (h : ∀ j, (d.gradient z).get j * (x.get j - z.get j) = 0) :
    d.cost x = d.cost z + d.gap z x := by
  rw [d.cost_expand z x, Finset.sum_eq_zero fun j _ => h j]
  ring

/-- If the slope at `z` vanishes towards `x`, then the slope at `x` towards `z`
is `d.gap z x`. -/
theorem slope_eq_gap {x z : Vector α k}
    (h : ∀ j, (d.gradient z).get j * (x.get j - z.get j) = 0) [CharZero α] :
    ∑ j, (d.gradient x).get j * (z.get j - x.get j) = d.gap z x := by
  have hz := d.cost_expand x z
  rw [d.cost_eq_add_gap h, d.gap_comm x z] at hz
  have h2 : (2 : α) * ∑ j,
      (d.gradient x).get j * (z.get j - x.get j) = 2 * d.gap z x := by
    linear_combination hz
  exact mul_left_cancel₀ two_ne_zero h2

/-- **The cost along a segment**: at the share `t` of the way from `x` to `z`,
where the slope at `z` vanishes towards `x`, `(1 - t) ^ 2` of the excess cost is
left. -/
theorem cost_segment {x y z : Vector α k} {t : α}
    (h : ∀ j, (d.gradient z).get j * (x.get j - z.get j) = 0)
    (hy : ∀ j, y.get j = x.get j + t * (z.get j - x.get j)) :
    d.cost y = d.cost z + (1 - t) ^ 2 * d.gap z x := by
  have hyz : ∀ j, y.get j - z.get j = (1 - t) * (x.get j - z.get j) := by
    intro j
    rw [hy j]
    ring
  have hgap : d.gap z y = (1 - t) ^ 2 * d.gap z x := by
    rw [gap_eq, gap_eq, Finset.mul_sum]
    refine Finset.sum_congr rfl fun row _ => ?_
    rw [predict_sub, predict_sub, ← mul_pow, Finset.mul_sum]
    congr 1
    exact Finset.sum_congr rfl fun j _ => by rw [hyz j]; ring
  rw [d.cost_eq_add_gap (x := y) (z := z), hgap]
  intro j
  rw [hyz j, mul_left_comm, h j, mul_zero]

end Exact

section Solved

variable [Field α] (d : Design α n k)

/-- Solving the normal equations of the columns with a property `p` means that
the gradient vanishes there, at the point that is zero on all other columns. -/
theorem gradient_eq_zero_of_solvedOn {p : Fin k → Bool} {z y : Vector α k}
    (hz : d.normal.SolvedOn ((List.finRange k).filter p) z)
    (hy : ∀ j, y.get j = if p j then z.get j else 0) {i : Fin k} (hi : p i = true) :
    (d.gradient y).get i = 0 := by
  obtain ⟨q, hq, rfl⟩ := List.getElem_of_mem
    (List.mem_filter.mpr ⟨List.mem_finRange i, hi⟩ : i ∈ (List.finRange k).filter p)
  have hrow := hz ⟨q, hq⟩
  rw [Vec.dot] at hrow
  simp only [Normal.select, Vector.get_ofFn, List.get_eq_getElem] at hrow
  have hsum := Vec.sum_list p
    (fun j => (d.normal.gram.get (((List.finRange k).filter p)[q])).get j * z.get j)
  simp only [List.get_eq_getElem] at hsum
  rw [hsum] at hrow
  rw [← d.normal_gradient, Normal.gradient, Vector.get_ofFn, ← hrow,
    Vec.dot_eq, sub_eq_zero]
  refine Finset.sum_congr rfl fun j _ => ?_
  rw [hy j]
  split
  · rfl
  · rw [mul_zero]

end Solved

section Ordered

variable [Field α] [LinearOrder α] [IsStrictOrderedRing α] (d : Design α n k)

theorem gap_nonneg (x y : Vector α k) : 0 ≤ d.gap x y := by
  rw [gap_eq]
  exact Finset.sum_nonneg fun row _ => sq_nonneg _

theorem cost_nonneg (x : Vector α k) : 0 ≤ d.cost x := by
  rw [cost_eq]
  exact Finset.sum_nonneg fun row _ => sq_nonneg _

/-- Points at `gap` zero have the same prediction. -/
theorem predict_eq_of_gap_eq_zero {x y : Vector α k} (h : d.gap x y = 0) (row : Fin n) :
    (d.predict y).get row = (d.predict x).get row := by
  rw [gap_eq, Finset.sum_eq_zero_iff_of_nonneg fun row _ => sq_nonneg _] at h
  exact sub_eq_zero.mp (pow_eq_zero_iff two_ne_zero |>.mp (h row (Finset.mem_univ row)))

/-- **The cost is convex** along the segment from `x` to `z`. -/
theorem cost_le_of_segment {x y z : Vector α k} {t : α} (ht : 0 ≤ t) (ht1 : t ≤ 1)
    (hy : ∀ j, y.get j = x.get j + t * (z.get j - x.get j)) :
    d.cost y ≤ (1 - t) * d.cost x + t * d.cost z := by
  have hpredict : ∀ row, (d.predict y).get row =
      (1 - t) * (d.predict x).get row + t * (d.predict z).get row := by
    intro row
    simp only [predict_get, Finset.mul_sum, ← Finset.sum_add_distrib]
    exact Finset.sum_congr rfl fun j _ => by rw [hy j]; ring
  rw [cost_eq, cost_eq, cost_eq, Finset.mul_sum, Finset.mul_sum, ← Finset.sum_add_distrib]
  refine Finset.sum_le_sum fun row _ => ?_
  rw [hpredict]
  -- in each row the two sides differ by a multiple of a square
  have hsquare : 0 ≤ t * (1 - t) * ((d.predict x).get row - (d.predict z).get row) ^ 2 :=
    mul_nonneg (mul_nonneg ht (sub_nonneg.mpr ht1)) (sq_nonneg _)
  linear_combination hsquare

/-- **Optimality up to a tolerance**: if the gradient at `x` vanishes where `x`
does not, and nowhere exceeds `tol`, then no nonnegative point is cheaper than
`x` by more than `2 * tol` times its total. -/
theorem cost_le_of_gradient_le {x y : Vector α k} {tol : α}
    (hslack : ∀ j, (d.gradient x).get j * x.get j = 0)
    (hle : ∀ j, (d.gradient x).get j ≤ tol) (hy : ∀ j, 0 ≤ y.get j) :
    d.cost x ≤ d.cost y + 2 * tol * ∑ j, y.get j := by
  have hslope : ∑ j, (d.gradient x).get j * (y.get j - x.get j) ≤ tol * ∑ j, y.get j := by
    rw [Finset.mul_sum]
    refine Finset.sum_le_sum fun j _ => ?_
    rw [mul_sub, hslack j, sub_zero]
    exact mul_le_mul_of_nonneg_right (hle j) (hy j)
  have hexpand := d.cost_expand x y
  have hgap := d.gap_nonneg x y
  linarith

omit [IsStrictOrderedRing α] in
theorem columnScale_nonneg : 0 ≤ d.columnScale := by
  have hfold : ∀ (l : List (Vector α n)) (m : α), 0 ≤ m →
      0 ≤ l.foldl (fun m c => Vec.larger m (Vec.norm₁ c)) m := by
    intro l
    induction l with
    | nil => intro m hm; exact hm
    | cons c l ih => intro m hm; exact ih _ (hm.trans (Vec.le_larger m _))
  rw [columnScale, ← Vector.foldl_toList]
  exact hfold _ 0 le_rfl

/-- The gradient tolerance is not negative, if `Scalar.epsilon` is not. -/
theorem tolerance_nonneg [Scalar α] (h : (0 : α) ≤ Scalar.epsilon) : 0 ≤ d.tolerance := by
  unfold tolerance
  have hscale := d.columnScale_nonneg
  positivity

end Ordered

end Design

end ReachMixture.LeastSquares
