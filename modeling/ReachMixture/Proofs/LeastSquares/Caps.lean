import ReachMixture.Proofs.LeastSquares.Convergence
import ReachMixture.Proofs.LeastSquares.Independence

/-!
# Caps

What the cap on its iterations changes about an active-set run. A run does not
look at its cap except to stop, so a smaller cap cuts the same run off earlier.
In exact arithmetic no iteration makes the point worse, wherever the run is cut
off, so the point that stands then is the best that the run has seen.

- `Setting.Budgeted`, `Setting.run_budgeted`: a run that its budget cuts off is
  continued by a larger budget, and a run that has ended of itself is not
  changed by one.
- `cap_truncates`: what this means for the answers of the solver, in whatever
  arithmetic.
- `Pending.tried_cost_le`, `advance_cost_le`, `stage_cost_antitone`: the cost
  never grows, not even on the way from one trial to the next.
- `Setting.Visited`: all points that a run has been at.
- `larger_cap_never_worse`: what this means for the answers of the solver.
-/

namespace ReachMixture.LeastSquares.ActiveSet

variable {α : Type} {n k : Nat}

/-! ## Runs that are cut off -/

/-- The run ended because its cap was spent, before a column entered or in the
middle of a retreat. -/
def Ending.ByCap (e : Ending) : Prop := e = .capped ∨ e = .cappedMidway

instance (e : Ending) : Decidable e.ByCap := inferInstanceAs (Decidable (_ ∨ _))

theorem Pending.ending_byCap (p : Pending α k) : p.ending.ByCap := by
  cases p with
  | enter s j => exact .inl rfl
  | retreat s j z => exact .inr rfl

theorem Ending.ByCap.ne_converged {e : Ending} (h : e.ByCap) : e ≠ .converged := by
  rintro rfl
  rcases h with h | h <;> cases h

section Runs

variable [Zero α] [One α] [Add α] [Sub α] [Mul α] [Div α] [LT α] [LE α]
  [DecidableLT α] [DecidableLE α]
variable [Scalar α]

/-- What becomes of a run that may spend `budget` iterations. -/
inductive Setting.Budgeted (t : Setting α n k) (budget spent : Nat)
    (v : Verdict α k) : Prop where
  /-- It ends of itself, and does so with every larger budget. -/
  | ended (h : ¬ (t.run budget spent v).ending.ByCap)
      (hmore : ∀ more, t.run (budget + more) spent v = t.run budget spent v)
  /-- It spends its budget while a trial is pending, and a larger budget goes on
  with that trial. -/
  | cut (p : Pending α k) (h : t.run budget spent v = ⟨p.state, spent + budget, p.ending⟩)
      (hmore : ∀ more, t.run (budget + more) spent v =
        t.run more (spent + budget) (.pending p))

theorem Setting.run_budgeted (t : Setting α n k) (budget spent : Nat) (v : Verdict α k) :
    t.Budgeted budget spent v := by
  induction budget generalizing spent v with
  | zero =>
    cases v with
    | converged s => exact .ended (by simp [run, Ending.ByCap]) fun more => by simp [run]
    | stuck s => exact .ended (by simp [run, Ending.ByCap]) fun more => by simp [run]
    | pending p => exact .cut p rfl fun more => by rw [Nat.zero_add, Nat.add_zero]
  | succ budget ih =>
    cases v with
    | converged s => exact .ended (by simp [run, Ending.ByCap]) fun more => by simp [run]
    | stuck s => exact .ended (by simp [run, Ending.ByCap]) fun more => by simp [run]
    | pending p =>
      -- the first iteration is the same for all budgets, and the rest is a run
      -- with a smaller one
      have hstep : ∀ b, t.run (b + 1) spent (.pending p) =
          t.run b (spent + 1) (t.advance p) := fun b => rfl
      have hspent : spent + 1 + budget = spent + (budget + 1) := by omega
      have hbudget : ∀ more, budget + 1 + more = budget + more + 1 := by omega
      cases ih (spent + 1) (t.advance p) with
      | ended h hmore => exact .ended h fun more => by rw [hbudget, hstep, hstep, hmore]
      | cut q h hmore =>
        rw [hspent] at h hmore
        exact .cut q h fun more => by rw [hbudget, hstep, hmore]

/-- `iterations` counts those that were `spent` before. -/
theorem Setting.le_iterations (t : Setting α n k) (budget spent : Nat) (v : Verdict α k) :
    spent ≤ (t.run budget spent v).iterations := by
  induction budget generalizing spent v with
  | zero => cases v <;> exact le_rfl
  | succ budget ih =>
    cases v with
    | converged s => exact le_rfl
    | stuck s => exact le_rfl
    | pending p => exact (Nat.le_succ spent).trans (ih (spent + 1) (t.advance p))

variable [NatCast α]

/-- **The cap only truncates**, whatever the trials answer, if they answer at
all, and whatever the arithmetic does. A run that is stopped by its cap has
`converged = false` and has spent `cap` to the last iteration, and a run with a
larger cap spends at least as many. A run that is not stopped by its cap gives
the same `Solution` with every larger one, and this is so in particular if it
has converged. -/
theorem cap_truncates (inner : PassiveSolve α) (d : Design α n k)
    (cap cap' : Nat) (h : cap ≤ cap') :
    ((solve inner cap d).ending.ByCap →
      ((activeSet inner cap).solve d).converged = false ∧
      ((activeSet inner cap).solve d).iterations = cap ∧
      cap ≤ ((activeSet inner cap').solve d).iterations) ∧
    (¬ (solve inner cap d).ending.ByCap →
      (activeSet inner cap').solve d = (activeSet inner cap).solve d) ∧
    (((activeSet inner cap).solve d).converged = true →
      (activeSet inner cap').solve d = (activeSet inner cap).solve d) := by
  have hconverged : ((activeSet inner cap).solve d).converged = true ↔
      (solve inner cap d).ending = .converged :=
    beq_iff_eq
  obtain ⟨more, rfl⟩ := Nat.exists_eq_add_of_le h
  -- a run that ended before its cap is the same with a larger one; a run that
  -- was cut off goes on
  cases (Setting.ofDesign inner d).run_budgeted cap 0
    ((Setting.ofDesign inner d).choose (.start k)) with
  | ended hnot hmore =>
    have hsame : solve inner (cap + more) d = solve inner cap d := hmore more
    have hanswer : (activeSet inner (cap + more)).solve d =
        (activeSet inner cap).solve d := by
      simp only [activeSet, hsame]
    exact ⟨fun hcapped => absurd hcapped hnot, fun _ => hanswer, fun _ => hanswer⟩
  | cut p hcut hmore =>
    have hcut : solve inner cap d = ⟨p.state, cap, p.ending⟩ := by
      rw [solve, hcut, Nat.zero_add]
    have hcapped : (solve inner cap d).ending.ByCap := by
      rw [hcut]
      exact p.ending_byCap
    have hfalse : ((activeSet inner cap).solve d).converged ≠ true := fun htrue =>
      hcapped.ne_converged (hconverged.mp htrue)
    refine ⟨fun _ => ⟨Bool.eq_false_iff.mpr hfalse, congrArg Outcome.iterations hcut, ?_⟩,
      fun hnot => absurd hcapped hnot, fun htrue => absurd htrue hfalse⟩
    show cap ≤ (solve inner (cap + more) d).iterations
    have hlonger : solve inner (cap + more) d =
        (Setting.ofDesign inner d).run more cap (.pending p) := by
      rw [solve, hmore, Nat.zero_add]
    rw [hlonger]
    exact (Setting.ofDesign inner d).le_iterations more cap _

end Runs

/-- The third trial of `skewDesign` converges exactly when a cap of three is
spent, and no larger cap changes that. With `erraticTrials` a cap of three cuts
the run off in the middle of a retreat instead. -/
theorem cap_truncates_midway :
    ((activeSet ratSolve 3).solve skewDesign).iterations = 3 ∧
    (activeSet ratSolve 1000).solve skewDesign = (activeSet ratSolve 3).solve skewDesign ∧
    (solve erraticTrials 3 crossDesign).ending = .cappedMidway ∧
    ((activeSet erraticTrials 3).solve crossDesign).converged = false ∧
    ((activeSet erraticTrials 3).solve crossDesign).iterations = 3 ∧
    3 ≤ ((activeSet erraticTrials 1000).solve crossDesign).iterations := by
  have hconverged : ((activeSet ratSolve 3).solve skewDesign).converged =
      true := by decide +kernel
  have hmidway : (solve erraticTrials 3 crossDesign).ending =
      .cappedMidway := by decide +kernel
  obtain ⟨hfalse, hspent, hlonger⟩ :=
    (cap_truncates erraticTrials crossDesign 3 1000 (by decide)).1 (.inr hmidway)
  exact ⟨by decide +kernel, (cap_truncates ratSolve skewDesign 3 1000 (by decide)).2.2
    hconverged, hmidway, hfalse, hspent, hlonger⟩

/-! ## Costs along a run -/

/-- The points that a run has been at within `m` iterations, those on the way
between two trials included. -/
inductive Setting.Visited [Zero α] [One α] [Add α] [Sub α] [Mul α] [Div α] [LT α] [LE α]
    [DecidableLT α] [DecidableLE α] [Scalar α] (t : Setting α n k) (m : Nat) :
    Vector α k → Prop where
  /-- Where it stands after `i` iterations. -/
  | stage (i : Nat) (h : i ≤ m) : Visited t m (t.stage i).state.point
  /-- Where it goes before the trial of the next iteration is made. -/
  | tried (i : Nat) (h : i < m) (p : Pending α k) (hp : t.stage i = .pending p) :
    Visited t m p.tried.point

section Costs

variable [Field α] [LinearOrder α] [IsStrictOrderedRing α] {d : Design α n k}

/-- `Scalar.sqrt` is monotone on nonnegative numbers. -/
def OrderedRoots (α : Type) [Zero α] [LE α] [Scalar α] : Prop :=
  ∀ u v : α, 0 ≤ u → u ≤ v → Scalar.sqrt u ≤ Scalar.sqrt v

omit [LinearOrder α] [IsStrictOrderedRing α] in
theorem predict_start (d : Design α n k) (row : Fin n) :
    (d.predict (State.start k).point).get row = 0 := by
  simp [Design.predict_get]

omit [LinearOrder α] [IsStrictOrderedRing α] in
/-- A run starts at the cost `‖b‖²`, with all of the target still to be
explained. -/
theorem cost_start (d : Design α n k) : d.cost (State.start k).point =
    Vec.dot d.target d.target := by
  simp only [Design.cost_eq, predict_start, Vec.dot_eq, zero_sub, sq, neg_mul_neg]

omit [LinearOrder α] [IsStrictOrderedRing α] in
theorem gradient_start (d : Design α n k) (j : Fin k) :
    (d.gradient (State.start k).point).get j = Vec.dot (d.columns.get j) d.target := by
  simp only [Design.gradient_get, predict_start, Vec.dot_eq, sub_zero]

namespace State.Promising

variable {s : State α k} {z : Vector α k} {c : α}

/-- `accept` of a `Promising` trial does not raise the cost. -/
theorem accept_cost_le (h : s.Promising d c z) :
    d.cost (s.accept z).point ≤ d.cost s.point := by
  rw [d.cost_eq_add_gap (accept_slope h.stationary)]
  exact le_add_of_nonneg_right (d.gap_nonneg _ _)

/-- `retreat` towards a `Promising` trial does not raise the cost: by
`cost_segment` it leaves at most the whole excess over the trial. -/
theorem retreat_cost_le [Scalar α] [ExactScalar α] (h : s.Promising d c z)
    (hz : ∃ i, s.passive.get i = true ∧ z.get i ≤ 0) :
    d.cost (s.retreat z).point ≤ d.cost s.point := by
  obtain ⟨i, hi, hzi, hsegment, -⟩ := h.toFeasible.retreat_segment hz
  have hflat := accept_slope h.stationary
  have hnonneg : 0 ≤ hitting (s.point.get i) (z.get i) :=
    hitting_nonneg (h.room i hi hzi).le hzi
  have hone : hitting (s.point.get i) (z.get i) ≤ 1 := hitting_le_one hzi
  rw [d.cost_segment hflat hsegment, d.cost_eq_add_gap hflat]
  refine add_le_add_right (mul_le_of_le_one_left (d.gap_nonneg _ _) ?_) _
  exact pow_le_one₀ (sub_nonneg.mpr hone) (by linarith)

end State.Promising

variable [Scalar α] [ExactScalar α] {inner : PassiveSolve α}

/-- The state at which a trial is made costs no more than the state before it. -/
theorem Pending.tried_cost_le {p : Pending α k} {last : State α k}
    (h : (Verdict.pending p).Descending d last) :
    d.cost p.tried.point ≤ d.cost p.state.point := by
  cases p with
  | enter s j => exact le_rfl
  | retreat s j z => exact h.1.retreat_cost_le h.2

/-- **One iteration does not raise the cost** of the state at which its trial is
made, whatever it leads to. -/
theorem advance_cost_le (hexact : inner.Exact d) {p : Pending α k} {last : State α k}
    (h : (Verdict.pending p).Descending d last) :
    d.cost ((Setting.ofDesign inner d).advance p).state.point ≤ d.cost p.tried.point := by
  cases Setting.descent hexact h with
  | stuck _ hv =>
    rw [hv]
    exact le_rfl
  | accept z htrial _ _ _ hv =>
    have hsolved := hexact _ z p.tried.free_sublist htrial
    rw [hv, Setting.choose_state]
    exact (Pending.tried_promising h hsolved).1.accept_cost_le
  | retreat z _ _ _ hv =>
    rw [hv]
    exact le_rfl

theorem tried_cost_le_stage (hexact : inner.Exact d) {m : Nat} {p : Pending α k}
    (hp : (Setting.ofDesign inner d).stage m = .pending p) :
    d.cost ((Setting.ofDesign inner d).stage (m + 1)).state.point ≤ d.cost p.tried.point ∧
      d.cost p.tried.point ≤ d.cost ((Setting.ofDesign inner d).stage m).state.point := by
  obtain ⟨last, _, -, h⟩ := History.stage hexact m
  have hdescending := h.current
  rw [hp] at hdescending
  rw [Setting.stage_succ, hp]
  exact ⟨advance_cost_le hexact hdescending, Pending.tried_cost_le hdescending⟩

/-- **The cost never grows along a run.** By induction on the stages. -/
theorem stage_cost_antitone (hexact : inner.Exact d) :
    Antitone fun m => d.cost ((Setting.ofDesign inner d).stage m).state.point := by
  refine antitone_nat_of_succ_le fun m => ?_
  cases hv : (Setting.ofDesign inner d).stage m with
  | converged s => rw [Setting.stage_succ, hv]; exact le_rfl
  | stuck s => rw [Setting.stage_succ, hv]; exact le_rfl
  | pending p =>
    have hle := tried_cost_le_stage hexact hv
    rw [hv] at hle
    exact hle.1.trans hle.2

theorem Setting.Visited.cost_le (hexact : inner.Exact d) {m : Nat} {y : Vector α k}
    (h : (Setting.ofDesign inner d).Visited m y) :
    d.cost ((Setting.ofDesign inner d).stage m).state.point ≤ d.cost y := by
  cases h with
  | stage i hi => exact stage_cost_antitone hexact hi
  | tried i hi p hp =>
    exact (stage_cost_antitone hexact hi).trans (tried_cost_le_stage hexact hp).1

/-- **A larger cap is never worse.** If the trials that are answered solve their
normal equations, then the answer with a larger cap costs no more than the
answer with a smaller one. If roots keep their order, its `residual` is no
larger either, and both are at most `‖b‖`. Wherever the run is cut off, also on
the way between two trials, the answer costs no more than any `Visited` point. -/
theorem larger_cap_never_worse (inner : PassiveSolve α) (d : Design α n k)
    (hexact : inner.Exact d) (cap cap' : Nat) (h : cap ≤ cap') :
    (∃ x x' : Vector α k, ((activeSet inner cap).solve d).coefficients = x.toList ∧
      ((activeSet inner cap').solve d).coefficients = x'.toList ∧ d.cost x' ≤ d.cost x ∧
      ∀ y, (Setting.ofDesign inner d).Visited cap y → d.cost x ≤ d.cost y) ∧
    (OrderedRoots α →
      ((activeSet inner cap').solve d).residual ≤
        ((activeSet inner cap).solve d).residual ∧
      ((activeSet inner cap).solve d).residual ≤ Vec.norm d.target ∧
      ((activeSet inner cap').solve d).residual ≤ Vec.norm d.target) := by
  have hcost := stage_cost_antitone hexact h
  refine ⟨⟨_, _, activeSet_coefficients inner cap d, activeSet_coefficients inner cap'
    d, hcost, fun y hy => hy.cost_le hexact⟩, fun hroots => ?_⟩
  have hresidual : ∀ m, ((activeSet inner m).solve d).residual =
      Scalar.sqrt (d.cost ((Setting.ofDesign inner d).stage m).state.point) := by
    intro m
    rw [← solve_state]
    rfl
  have hnorm : ∀ m, ((activeSet inner m).solve d).residual ≤ Vec.norm d.target := by
    intro m
    have hstart : d.cost ((Setting.ofDesign inner d).stage 0).state.point =
        Vec.dot d.target d.target := by
      rw [← cost_start d]
      exact congrArg (fun s : State α k => d.cost s.point) (Setting.choose_state _ _)
    rw [hresidual, Vec.norm, ← hstart]
    exact hroots _ _ (d.cost_nonneg _) (stage_cost_antitone hexact (Nat.zero_le m))
  refine ⟨?_, hnorm cap, hnorm cap'⟩
  rw [hresidual, hresidual]
  exact hroots _ _ (d.cost_nonneg _) hcost

end Costs

/-- `Real.sqrt` is monotone. -/
theorem orderedRoots_real : OrderedRoots ℝ := fun _ _ _ h => Real.sqrt_le_sqrt h

/-- Two columns and a target at an obtuse angle. -/
noncomputable def obtuseDesign : Design ℝ 2 2 := ⟨#v[#v[1, 0], #v[1, 1]], #v[1, -1]⟩

/-- Two trials of `skewDesign` end in the middle of a retreat, and what they
have led to is cheaper than the point at which the run started. In real numbers,
the residuals of `obtuseDesign` do not grow with the cap. -/
theorem larger_cap_never_worse_skew :
    (solve ratSolve 2 skewDesign).ending = .cappedMidway ∧
    (∃ x x' : Vector ℚ 2, ((activeSet ratSolve 2).solve skewDesign).coefficients =
        x.toList ∧
      ((activeSet ratSolve 3).solve skewDesign).coefficients = x'.toList ∧
      skewDesign.cost x' ≤ skewDesign.cost x ∧
      skewDesign.cost x ≤ skewDesign.cost #v[0, 0]) ∧
    OrderedRoots ℝ ∧
    ((activeSet (gramSolve fun _ => none) 5).solve obtuseDesign).residual ≤
      ((activeSet (gramSolve fun _ => none) 1).solve obtuseDesign).residual ∧
    ((activeSet (gramSolve fun _ => none) 1).solve obtuseDesign).residual ≤
      Vec.norm #v[1, -1] := by
  obtain ⟨⟨x, x', hx, hx', hle, hvisited⟩, -⟩ :=
    larger_cap_never_worse ratSolve skewDesign ratSolve_exact 2 3 (by decide)
  obtain ⟨-, hresiduals⟩ := larger_cap_never_worse (gramSolve fun _ => none) obtuseDesign
    (gramSolve_exact exactElimination obtuseDesign) 1 5 (by decide)
  obtain ⟨hsmaller, hnorm, -⟩ := hresiduals orderedRoots_real
  have hstart : ((Setting.ofDesign ratSolve skewDesign).stage 0).state.point =
      #v[0, 0] := by decide +kernel
  exact ⟨by decide +kernel,
    ⟨x, x', hx, hx', hle, hvisited _ (hstart ▸ .stage 0 (Nat.zero_le 2))⟩,
    orderedRoots_real, hsmaller, hnorm⟩

end ReachMixture.LeastSquares.ActiveSet
