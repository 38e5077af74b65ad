import ReachMixture.Proofs.LeastSquares.Convergence
import ReachMixture.Proofs.LeastSquares.Selection

/-!
# Landings

One retreat by itself, in exact arithmetic. It does not matter how the run came
to the point or where the trial is from: as long as no coefficient of the point
is negative and the trial is not positive everywhere, the retreat lands on the
boundary of the feasible region, and setting coefficients to zero there changes
none of them. If the trial is the best that its columns allow for, then the way
to it leads downwards.

- `State.cost_accept`: the cost of a trial, on its own columns and among all of
  them.
- `State.Feasible.retreat_cost_le`: a retreat towards a closest trial does not
  raise the cost.
- `retreat_lands_on_boundary`: all that is to be said of one retreat.
-/

namespace ReachMixture.LeastSquares.ActiveSet

variable {α : Type} {n k : Nat} [Field α] [LinearOrder α] {s : State α k} {z : Vector α k}

namespace State

omit [LinearOrder α] in
/-- A trial costs the same in the restricted problem as with zeros for the other
columns. -/
theorem cost_accept (d : Design α n k)
    (hzero : ∀ i, s.passive.get i = false → s.point.get i = 0) :
    (d.select s.free).cost (gather s.free z) = d.cost (s.accept z).point := by
  have hgather : gather s.free z = gather s.free (s.accept z).point := by
    refine vector_ext fun p => ?_
    rw [gather_get, gather_get, accept_point_get,
      if_pos (mem_free.mp (List.get_mem s.free p))]
  rw [hgather]
  refine d.cost_gather s.free_nodup fun i hi => ?_
  have hpinned : s.passive.get i = false := by
    rw [← Bool.not_eq_true, ← mem_free]
    exact hi
  rw [accept_point_get, if_neg (by simp [hpinned])]
  exact hzero i hpinned

/-- A trial that minimises the restricted problem costs no more than the point. -/
theorem Feasible.cost_accept_le (h : s.Feasible) {d : Design α n k}
    (hmin : (d.select s.free).Minimises (gather s.free z)) :
    d.cost (s.accept z).point ≤ d.cost s.point := by
  have hpoint : (s.accept s.point).point = s.point := vector_ext fun i => by
    rw [accept_point_get, ite_self]
  have hle := hmin (gather s.free s.point)
  rw [cost_accept d h.zero, cost_accept d h.zero, hpoint] at hle
  exact hle

variable [IsStrictOrderedRing α] [Scalar α] [ExactScalar α]

/-- The share of `stop` lies in `[0, 1]`. -/
theorem Feasible.stop_bounds (h : s.Feasible)
    (hz : ∃ i, s.passive.get i = true ∧ z.get i ≤ 0) :
    0 ≤ (stop s.point z s.free).1 ∧ (stop s.point z s.free).1 ≤ 1 := by
  obtain ⟨i, -, hzi, -, hstop, -⟩ :=
    stop_eq (fun j _ => not_lt.mp (h.nonneg j)) (Feasible.exists_free hz)
  rw [hstop]
  exact ⟨hitting_nonneg (not_lt.mp (h.nonneg i)) hzi, hitting_le_one hzi⟩

/-- **Downwards.** A retreat towards a minimiser of the restricted problem does
not raise the cost, which is convex. -/
theorem Feasible.retreat_cost_le (h : s.Feasible)
    (hz : ∃ i, s.passive.get i = true ∧ z.get i ≤ 0) {d : Design α n k}
    (hmin : (d.select s.free).Minimises (gather s.free z)) :
    d.cost (s.retreat z).point ≤ d.cost s.point := by
  obtain ⟨hnonneg, hone⟩ := h.stop_bounds hz
  have hsegment := d.cost_le_of_segment hnonneg hone (h.retreat_point_get hz)
  have htrial := mul_le_mul_of_nonneg_left (h.cost_accept_le hmin) hnonneg
  calc d.cost (s.retreat z).point
      ≤ (1 - (stop s.point z s.free).1) * d.cost s.point +
          (stop s.point z s.free).1 * d.cost (s.accept z).point := hsegment
    _ ≤ (1 - (stop s.point z s.free).1) * d.cost s.point +
      (stop s.point z s.free).1 * d.cost s.point :=
        add_le_add le_rfl htrial
    _ = d.cost s.point := by ring

end State

variable [IsStrictOrderedRing α] [Scalar α] [ExactScalar α]

/-- **A retreat lands on the boundary.** Let no coefficient of a point be
negative and those of pinned columns be zero, and let `z` be nonpositive at some
passive column. Then `firstHit` finds a passive column that stops the move
towards `z`.
- The share of the way that it goes lies between zero and one, without being
  clamped.
- All of the point that is reached is not negative, the coefficient of the
  stopping column is zero, and this is the point of `s.retreat z`: setting
  coefficients to zero changes nothing.
- If no passive coefficient is zero both at the point and in `z`, then no larger
  share up to one keeps all coefficients from becoming negative.
- If `z` minimises the problem on the passive columns, then the cost does not
  grow. -/
theorem retreat_lands_on_boundary (d : Design α n k) (s : State α k) (z : Vector α k)
    (hx : ∀ i, 0 ≤ s.point.get i)
    (hoff : ∀ i, s.passive.get i = false → s.point.get i = 0)
    (hz : ∃ i, s.passive.get i = true ∧ z.get i ≤ 0) :
    ∃ share stopper, firstHit s.point z s.free = some (share, stopper) ∧
      stop s.point z s.free = (share, some stopper) ∧ s.passive.get stopper = true ∧
      0 ≤ share ∧ share ≤ 1 ∧
      (∀ i, s.passive.get i = true →
        0 ≤ s.point.get i + share * (z.get i - s.point.get i)) ∧
      s.point.get stopper + share * (z.get stopper - s.point.get stopper) = 0 ∧
      (∀ i, (s.retreat z).point.get i =
        if s.passive.get i then s.point.get i + share *
          (z.get i - s.point.get i) else s.point.get i) ∧
      ((∀ i, s.passive.get i = true → ¬ (s.point.get i = 0 ∧ z.get i = 0)) →
        IsGreatest {t | 0 ≤ t ∧ t ≤ 1 ∧
          ∀ i, s.passive.get i = true →
            0 ≤ s.point.get i + t * (z.get i - s.point.get i)} share) ∧
      ((d.select s.free).Minimises (gather s.free z) →
        d.cost (s.retreat z).point ≤ d.cost s.point) := by
  have h : s.Feasible := ⟨fun i => not_lt.mpr (hx i), hoff⟩
  have hfree := State.Feasible.exists_free hz
  obtain ⟨i, hi, hzi, hfirst, hstop, -⟩ := stop_eq (fun j _ => hx j) hfree
  obtain ⟨hnonneg, hone⟩ := h.stop_bounds hz
  have hmove := fun j (hj : s.passive.get j = true) =>
    stop_move_nonneg (fun j _ => hx j) hfree (State.mem_free.mpr hj)
  rw [hstop] at hnonneg hone hmove
  refine ⟨_, i, hfirst, hstop, State.mem_free.mp hi, hnonneg, hone, hmove,
    add_hitting_mul (hx i) hzi, fun j => ?_, fun hapart => ?_, h.retreat_cost_le hz⟩
  · rw [h.retreat_point_get hz, hstop, State.accept_point_get]
    by_cases hj : s.passive.get j = true
    · rw [if_pos hj, if_pos hj]
    · rw [if_neg hj, if_neg hj, sub_self, mul_zero, add_zero]
  · have hgreatest := isGreatest_stop (fun j _ => hx j) hfree fun j hj =>
      not_and_or.mp (hapart j (State.mem_free.mp hj))
    rw [hstop] at hgreatest
    simpa only [State.mem_free] using hgreatest

/-- `skewDesign` when the second column has been accepted and the first one has
just entered. -/
def skewState : State ℚ 2 := ⟨#v[0, 26 / 25], #v[true, true], #v[false, false]⟩

/-- The best coefficients of the two columns make the one that was there before
negative. The way to them is open up to `104 / 129`, where that column stops it. -/
theorem retreat_lands_on_boundary_skew :
    (∀ i, 0 ≤ skewState.point.get i) ∧
    (skewDesign.select skewState.free).Minimises
      (gather skewState.free #v[43 / 4, -1 / 4]) ∧
    stop skewState.point #v[43 / 4, -1 / 4] skewState.free = (104 / 129, some 1) ∧
    (skewState.retreat #v[43 / 4, -1 / 4]).point = #v[26 / 3, 0] ∧
    IsGreatest {t : ℚ | 0 ≤ t ∧ t ≤ 1 ∧ ∀ i, skewState.passive.get i = true →
      0 ≤ skewState.point.get i + t *
        ((#v[43 / 4, -1 / 4] : Vector ℚ 2).get i - skewState.point.get i)} (104 / 129) ∧
    skewDesign.cost (skewState.retreat #v[43 / 4, -1 / 4]).point ≤
      skewDesign.cost skewState.point := by
  have hx : ∀ i, 0 ≤ skewState.point.get i := by decide +kernel
  have hmin : (skewDesign.select skewState.free).Minimises
      (gather skewState.free #v[43 / 4, -1 / 4]) :=
    Design.minimises_of_gradient_eq_zero _ (by decide +kernel)
  have hstop : stop skewState.point #v[43 / 4, -1 / 4] skewState.free =
      (104 / 129, some 1) := by decide +kernel
  obtain ⟨share, stopper, -, hshare, -, -, -, -, -, -, hgreatest, hcost⟩ :=
    retreat_lands_on_boundary skewDesign skewState #v[43 / 4, -1 / 4] hx
      (by decide +kernel) ⟨1, by decide +kernel⟩
  cases hstop.symm.trans hshare
  exact ⟨hx, hmin, hstop, by decide +kernel, hgreatest (by decide +kernel), hcost hmin⟩

end ReachMixture.LeastSquares.ActiveSet
