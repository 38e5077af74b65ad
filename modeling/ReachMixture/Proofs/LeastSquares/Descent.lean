import ReachMixture.Proofs.LeastSquares.Boundary
import ReachMixture.Proofs.LeastSquares.Cost

/-!
# Descent of active-set runs

In exact arithmetic, with trials that solve their normal equations, every point
that a run accepts costs less than the one accepted before, however often the
run has to retreat in between.

- `State.Settled`: an accepted point. It is the least squares solution on its
  passive columns, where it is positive.
- `State.Promising`: a state on the way from one accepted point to the next,
  with a trial that costs less than the former. Every column that the trial
  would make negative still has room.
- `Verdict.Descending`: what a run keeps from stage to stage, with the state
  accepted last.
- `Setting.descent_of_solved`, `Setting.descent`: an iteration accepts a point
  that costs less than the last one, or finds a promising trial to retreat
  towards.
-/

namespace ReachMixture.LeastSquares

/-- Every answer solves the normal equations of the columns that were selected. -/
def PassiveSolve.Exact {α : Type} {n k : Nat} [Zero α] [Add α] [Mul α]
    (inner : PassiveSolve α) (d : Design α n k) : Prop :=
  ∀ idx z, idx.Sublist (List.finRange k) → inner.trial d d.normal idx = some z →
    d.normal.SolvedOn idx z

namespace ActiveSet

variable {α : Type} {n k : Nat}

/-- `s.free` lists the passive columns in ascending order. -/
theorem State.free_sublist (s : State α k) : s.free.Sublist (List.finRange k) :=
  List.filter_sublist

section Entering

variable [LinearOrder α]

/-- The `steepest` of some columns is at least as steep as each of them. -/
theorem le_steepest {w : Vector α k} {l : List (Fin k)} {i : Fin k} (hi : i ∈ l) :
    ∃ j, steepest w l = some j ∧ w.get i ≤ w.get j := by
  have hfold : ∀ (rest : List (Fin k)) (first : Fin k), ∀ i ∈ first :: rest, w.get i ≤
      w.get
        (rest.foldl (fun best j => if w.get j < w.get best then best else j) first) := by
    intro rest
    induction rest with
    | nil =>
      intro first i hi
      rw [List.mem_singleton.mp hi]
      exact le_rfl
    | cons j rest ih =>
      intro first i hi
      rw [List.foldl_cons]
      -- the better of the first two columns is at least as steep as both
      by_cases hlt : w.get j < w.get first
      · rw [if_pos hlt]
        rcases List.mem_cons.mp hi with rfl | hi
        · exact ih i i List.mem_cons_self
        · rcases List.mem_cons.mp hi with rfl | hi
          · exact hlt.le.trans (ih first first List.mem_cons_self)
          · exact ih first i (List.mem_cons_of_mem first hi)
      · rw [if_neg hlt]
        rcases List.mem_cons.mp hi with rfl | hi
        · exact (not_lt.mp hlt).trans (ih j j List.mem_cons_self)
        · exact ih j i hi
  cases l with
  | nil => exact absurd hi List.not_mem_nil
  | cons first rest => exact ⟨_, rfl, hfold rest first i hi⟩

/-- If no column enters, then no column that is neither passive nor blocked is
steeper than the tolerance. -/
theorem State.le_of_entering_none {s : State α k} {w : Vector α k} {tol : α}
    (h : s.entering? w tol = none) {i : Fin k} (hp : s.passive.get i = false)
    (hb : s.blocked.get i = false) : w.get i ≤ tol := by
  have hi : i ∈ s.candidates :=
    List.mem_filter.mpr ⟨List.mem_finRange i, by simp [hp, hb]⟩
  obtain ⟨j, hj, hle⟩ := le_steepest (w := w) hi
  rw [State.entering?, hj, Option.filter_eq_none_iff] at h
  have hnot := h j rfl
  rw [decide_eq_true_iff, not_lt] at hnot
  exact hle.trans hnot

end Entering

variable [Field α] [LinearOrder α]

/-! ## Accepted points and promising trials -/

namespace State

/-- The point is the least-squares solution on the passive columns, where it is
positive, and no column is blocked. This is the state after `accept`. -/
structure Settled (d : Design α n k) (s : State α k) : Prop extends s.Aligned where
  stationary : ∀ i, s.passive.get i = true → (d.gradient s.point).get i = 0
  unblocked : ∀ i, s.blocked.get i = false

/-- Accepting `z` would bring the cost below `c`, and the way to `z` leads
downwards from a point that does not cost more than `c`. The way is open for a
while: a column that it leads out of the feasible region is positive at its
beginning. -/
structure Promising (d : Design α n k) (c : α) (s : State α k)
    (z : Vector α k) : Prop extends
    s.Feasible where
  stationary : ∀ i, s.passive.get i = true → (d.gradient (s.accept z).point).get i = 0
  cost_le : d.cost s.point ≤ c
  cost_lt : d.cost (s.accept z).point < c
  room : ∀ i, s.passive.get i = true → z.get i ≤ 0 → 0 < s.point.get i
  unblocked : ∀ i, s.blocked.get i = false

theorem start_settled (d : Design α n k) : (State.start k : State α k).Settled d where
  toAligned := start_aligned
  stationary i hi := by
    rw [start_passive_get] at hi
    cases hi
  unblocked i := start_blocked_get i

variable {d : Design α n k} {s : State α k} {z : Vector α k} {c : α}

/-- A trial that solves the normal equations of `s.free` is stationary on the
passive columns. -/
theorem Feasible.accept_stationary (h : s.Feasible)
    (hz : d.normal.SolvedOn s.free z) {i : Fin k} (hi : s.passive.get i = true) :
    (d.gradient (s.accept z).point).get i = 0 := by
  refine d.gradient_eq_zero_of_solvedOn (p := fun i => s.passive.get i)
    hz (fun j => ?_) hi
  rw [accept_point_get]
  cases hj : s.passive.get j with
  | true => rfl
  | false => exact h.zero j hj

omit [LinearOrder α] in
/-- From a stationary trial there is no slope towards the point: where they
differ, the gradient vanishes. -/
theorem accept_slope
    (h : ∀ i, s.passive.get i = true → (d.gradient (s.accept z).point).get i = 0)
    (j : Fin k) :
    (d.gradient (s.accept z).point).get j *
      (s.point.get j - (s.accept z).point.get j) = 0 := by
  cases hj : s.passive.get j with
  | true => rw [h j hj, zero_mul]
  | false =>
    rw [accept_point_get, if_neg (by simp [hj]), sub_self, mul_zero]

/-- The slope from a `Settled` point towards the trial after column `j` entered
is that of `j` alone. -/
theorem Settled.slope_enter (h : s.Settled d) {j : Fin k} (hj : s.passive.get j = false) :
    ∑ i, (d.gradient s.point).get i *
        (((s.enter j).accept z).point.get i - s.point.get i) =
      (d.gradient s.point).get j * z.get j := by
  rw [Finset.sum_eq_single j]
  · rw [accept_point_get, if_pos (by simp [enter_passive_get]), h.zero j hj, sub_zero]
  · intro i _ hij
    cases hi : s.passive.get i with
    | true => rw [h.stationary i hi, zero_mul]
    | false =>
      rw [accept_point_get, if_neg (by simp [enter_passive_get, hij, hi]),
        enter_point, sub_self, mul_zero]
  · intro hnot
    exact absurd (Finset.mem_univ j) hnot

/-- `accept` of a `Promising` trial that is positive gives a `Settled` state
below the former cost. -/
theorem Promising.accept (h : s.Promising d c z)
    (hz : ∀ i, s.passive.get i = true → 0 < z.get i) :
    (s.accept z).Settled d ∧ d.cost (s.accept z).point < c :=
  ⟨⟨h.toFeasible.accept hz, h.stationary, accept_blocked_get s (z := z)⟩, h.cost_lt⟩

variable [IsStrictOrderedRing α]

/-- From an `Aligned` point that already costs less than `c` every trial is
`Promising`. -/
theorem Aligned.promising (h : s.Aligned) (hz : d.normal.SolvedOn s.free z)
    (hc : d.cost s.point < c) (hb : ∀ i, s.blocked.get i = false) :
    s.Promising d c z where
  toFeasible := h.feasible
  stationary _ := h.feasible.accept_stationary hz
  cost_le := hc.le
  cost_lt := by
    have hcost := d.cost_eq_add_gap
      (accept_slope fun _ => h.feasible.accept_stationary hz)
    have hgap := d.gap_nonneg (s.accept z).point s.point
    linarith
  room i hi _ := h.pos i hi
  unblocked := hb

/-- **Entering helps.** If a column whose gradient is positive enters at a
`Settled` point, the trial gives it a positive coefficient and costs less than
the point. -/
theorem Settled.promising_enter (h : s.Settled d) {j : Fin k}
    (hj : s.passive.get j = false) (hw : 0 < (d.gradient s.point).get j)
    (hz : d.normal.SolvedOn (s.enter j).free z) :
    0 < z.get j ∧ (s.enter j).Promising d (d.cost s.point) z := by
  have hfeasible : (s.enter j).Feasible := h.feasible.enter j
  have hflat := accept_slope fun i hi => hfeasible.accept_stationary hz (i := i) hi
  have hslope : (d.gradient s.point).get j * z.get j =
      d.gap ((s.enter j).accept z).point s.point := by
    rw [← h.slope_enter hj]
    exact d.slope_eq_gap hflat
  have hgap : 0 < d.gap ((s.enter j).accept z).point s.point := by
    refine lt_of_le_of_ne (d.gap_nonneg _ _) fun hzero => hw.ne' ?_
    -- without a distance the gradients agree, but the trial's vanishes at the
    -- column that entered
    rw [d.gradient_congr (d.predict_eq_of_gap_eq_zero hzero.symm) j]
    exact hfeasible.accept_stationary hz (by simp [enter_passive_get])
  have hzj : 0 < z.get j := pos_of_mul_pos_right (hslope ▸ hgap) hw.le
  refine ⟨hzj, hfeasible, fun i hi => hfeasible.accept_stationary hz hi, le_rfl,
    ?_, ?_, h.unblocked⟩
  · have hcost := d.cost_eq_add_gap hflat
    rw [enter_point] at hcost
    linarith
  · intro i hi hzi
    have hij : i ≠ j := by
      rintro rfl
      exact hzi.not_gt hzj
    rw [enter_passive_get, if_neg hij] at hi
    exact h.pos i hi

variable [Scalar α] [ExactScalar α]

/-- **Retreating helps.** On the way to a `Promising` trial the cost falls below
`c` at once: the share that is gone is positive, because every column that could
stop the move has `room`. -/
theorem Promising.retreat (h : s.Promising d c z)
    (hz : ∃ i, s.passive.get i = true ∧ z.get i ≤ 0) :
    (s.retreat z).Aligned ∧ d.cost (s.retreat z).point < c := by
  obtain ⟨i, hi, hzi, hsegment, haligned⟩ := h.toFeasible.retreat_segment hz
  refine ⟨haligned, ?_⟩
  have hflat := accept_slope h.stationary
  have hpos : 0 < hitting (s.point.get i) (z.get i) := hitting_pos (h.room i hi hzi) hzi
  have hone : hitting (s.point.get i) (z.get i) ≤ 1 := hitting_le_one hzi
  have hcost := d.cost_segment hflat hsegment
  have hx := d.cost_eq_add_gap hflat
  have hgap := d.gap_nonneg (s.accept z).point s.point
  generalize hitting (s.point.get i) (z.get i) = t at hpos hone hcost
  -- the square of the share that is left is at most that share itself
  have hsq : (1 - t) ^ 2 * d.gap (s.accept z).point s.point ≤
      (1 - t) * d.gap (s.accept z).point s.point := by
    refine mul_le_mul_of_nonneg_right ?_ hgap
    rw [sq]
    exact mul_le_of_le_one_right (sub_nonneg.mpr hone) (by linarith)
  calc d.cost (s.retreat z).point
      = d.cost (s.accept z).point + (1 - t) ^ 2 *
        d.gap (s.accept z).point s.point := hcost
    _ ≤ d.cost (s.accept z).point + (1 - t) *
      d.gap (s.accept z).point s.point := by gcongr
    _ = t * d.cost (s.accept z).point + (1 - t) * d.cost s.point := by rw [hx]; ring
    _ < t * c + (1 - t) * c := by
        refine add_lt_add_of_lt_of_le (mul_lt_mul_of_pos_left h.cost_lt hpos) ?_
        exact mul_le_mul_of_nonneg_left h.cost_le (sub_nonneg.mpr hone)
    _ = c := by ring

end State

/-! ## Stages of a run -/

variable [Scalar α]

/-- What a run keeps from stage to stage, `last` being the state accepted last:
the state is `last` itself when a column is looked for, and on the way to a
`Promising` trial during retreats. -/
def Verdict.Descending (d : Design α n k) (last : State α k) : Verdict α k → Prop
  | .converged s => s = last ∧ s.Settled d ∧ ∀ j, (d.gradient s.point).get j ≤ d.tolerance
  | .stuck _ => True
  | .pending (.enter s j) =>
    s = last ∧ s.Settled d ∧ s.passive.get j = false ∧
      d.tolerance < (d.gradient s.point).get j
  | .pending (.retreat s _ z) =>
    s.Promising d (d.cost last.point) z ∧ ∃ i, s.passive.get i = true ∧ z.get i ≤ 0

variable [IsStrictOrderedRing α] [ExactScalar α]
  {inner : PassiveSolve α} {d : Design α n k}

theorem choose_descending {s : State α k} (h : s.Settled d) :
    ((Setting.ofDesign inner d).choose s).Descending d s := by
  cases (Setting.ofDesign inner d).choice s with
  | converged hnone hv =>
    rw [hv]
    refine ⟨rfl, h, fun j => ?_⟩
    cases hj : s.passive.get j with
    | true =>
      rw [h.stationary j hj]
      exact d.tolerance_nonneg ExactScalar.epsilon_nonneg
    | false =>
      rw [← d.normal_gradient]
      exact State.le_of_entering_none hnone hj (h.unblocked j)
  | enter j hj hv =>
    rw [hv]
    obtain ⟨hpassive, -, hw⟩ := State.of_entering hj
    refine ⟨rfl, h, hpassive, ?_⟩
    rw [← d.normal_gradient]
    exact hw

/-- Every trial of a `Descending` run is `Promising`, and the first one after a
column entered gives it a positive coefficient. -/
theorem Pending.tried_promising {p : Pending α k} {last : State α k} {z : Vector α k}
    (h : (Verdict.pending p).Descending d last) (hz : d.normal.SolvedOn p.tried.free z) :
    p.tried.Promising d (d.cost last.point) z ∧
    (p.isFirst = true → 0 < z.get p.column) := by
  cases p with
  | enter s j =>
    obtain ⟨rfl, hsettled, hj, hw⟩ := h
    have hpos := (d.tolerance_nonneg ExactScalar.epsilon_nonneg).trans_lt hw
    obtain ⟨hzj, hpromising⟩ := hsettled.promising_enter hj hpos hz
    exact ⟨hpromising, fun _ => hzj⟩
  | retreat s j y =>
    obtain ⟨hpromising, hy⟩ := h
    obtain ⟨haligned, hcost⟩ := hpromising.retreat hy
    exact ⟨haligned.promising hz hcost hpromising.unblocked, fun hfirst => nomatch hfirst⟩

/-- Everything that an iteration can lead to in exact arithmetic. Unlike in
`Advance`, a column that entered is never refused. -/
inductive Descent (t : Setting α n k) (d : Design α n k) (last : State α k)
    (p : Pending α k) (v : Verdict α k) : Prop where
  /-- There is no trial. -/
  | stuck (h : t.trial p.tried = none) (hv : v = .stuck (p.tried.leave p.column))
  /-- A point is accepted that costs less than the last one. -/
  | accept (z : Vector α k) (h : t.trial p.tried = some z)
      (hpos : ∀ i, p.tried.passive.get i = true → 0 < z.get i)
      (hsettled : (p.tried.accept z).Settled d)
      (hcost : d.cost (p.tried.accept z).point < d.cost last.point)
      (hv : v = t.choose (p.tried.accept z))
  /-- The point has to retreat on its way to a `Promising` trial. -/
  | retreat (z : Vector α k) (h : t.trial p.tried = some z)
      (hnot : ∃ i, p.tried.passive.get i = true ∧ ¬ 0 < z.get i)
      (hpromising : p.tried.Promising d (d.cost last.point) z)
      (hv : v = .pending (.retreat p.tried p.column z))

/-- **One iteration in exact arithmetic**, if its own trial solves the normal
equations. -/
theorem Setting.descent_of_solved {p : Pending α k} {last : State α k}
    (h : (Verdict.pending p).Descending d last)
    (hsolved : ∀ z, (ofDesign inner d).trial p.tried = some z →
      d.normal.SolvedOn p.tried.free z) :
    Descent (ofDesign inner d) d last p ((ofDesign inner d).advance p) := by
  have htried : ∀ z, (ofDesign inner d).trial p.tried = some z →
      p.tried.Promising d (d.cost last.point) z ∧
      (p.isFirst = true → 0 < z.get p.column) :=
    fun z htrial => Pending.tried_promising h (hsolved z htrial)
  cases (ofDesign inner d).advance_spec p with
  | stuck htrial hv => exact .stuck htrial hv
  | accept z htrial hpos hv =>
    obtain ⟨hsettled, hcost⟩ := (htried z htrial).1.accept hpos
    exact .accept z htrial hpos hsettled hcost hv
  | refuse z htrial hfirst hz _ => exact absurd hz ((htried z htrial).2 hfirst).not_ge
  | retreat z htrial hnot _ hv => exact .retreat z htrial hnot (htried z htrial).1 hv

theorem Setting.descent (hinner : inner.Exact d) {p : Pending α k} {last : State α k}
    (h : (Verdict.pending p).Descending d last) :
    Descent (ofDesign inner d) d last p ((ofDesign inner d).advance p) :=
  descent_of_solved h fun z htrial => hinner _ z p.tried.free_sublist htrial

end ActiveSet

end ReachMixture.LeastSquares
