import ReachMixture.Proofs.Fit.Prediction
import ReachMixture.Proofs.LeastSquares.Convergence
import ReachMixture.Proofs.LeastSquares.Feasible
import ReachMixture.Proofs.Run.Records

/-!
# One residual, computed three times

The distance of a fit from its target is computed by the solver, from the
columns of the whole pool; by `Observations.record`, from the components that
were kept; and at the end of `runFit`, from the fitted mixture. Without rounding
these are the same number, because `activeSet` never answers with a negative
coefficient.

- `LeastSquares.activeSet_point`: the answer of `activeSet` as a point with its
  residual.
- `Observations.residual_of_prune`: the residual of a pool is the distance of
  what `prune` keeps.
- `residuals_agree`: the three residuals of every step and of every run.
-/

namespace ReachMixture

variable {α : Type}

section Exact

variable [Field α] [LinearOrder α] [Scalar α] [ExactScalar α]

open LeastSquares

omit [ExactScalar α] in
/-- `activeSet` answers with a point that has no negative coefficient, and with
its residual. -/
theorem LeastSquares.activeSet_point {n k : Nat} (inner : PassiveSolve α) (cap : Nat)
    (d : Design α n k) :
    ∃ x : Vector α k, ((activeSet inner cap).solve d).coefficients = x.toList ∧
        (∀ j, 0 ≤ x.get j) ∧
      ((activeSet inner cap).solve d).residual = d.residual x := by
  refine ⟨(ActiveSet.solve inner cap d).state.point, rfl, fun j => not_lt.mp ?_, rfl⟩
  rw [ActiveSet.solve_state]
  exact ((ActiveSet.Setting.ofDesign inner d).stage_feasible cap).not_neg j

/-- **The residual of a pool**: the answer of `activeSet` can be pruned, the
mixture that is left predicts what the whole pool does, and the reported
residual is its distance. -/
theorem Observations.residual_of_prune (o : Observations α)
    (pool : List (Vector α o.dims)) (inner : PassiveSolve α) (cap : Nat) :
    ∃ (x : Vector α pool.length) (y : Mixture α o.dims),
      ((activeSet inner cap).solve (o.design pool)).coefficients = x.toList ∧
      prune pool ((activeSet inner cap).solve (o.design pool)).coefficients = .ok y ∧
      predict y.components o.signal = (o.design pool).predict x ∧
      ((activeSet inner cap).solve (o.design pool)).residual =
        Vec.distance (predict y.components o.signal) o.target := by
  obtain ⟨x, hx, hnonneg, hresidual⟩ := activeSet_point inner cap (o.design pool)
  obtain ⟨y, hprune⟩ := o.exists_prune pool x
  have hpredict := o.predict_of_prune hnonneg hprune
  refine ⟨x, y, hx, hx ▸ hprune, hpredict, ?_⟩
  rw [hresidual, hpredict]
  rfl

/-- A step with `activeSet` reports the distance of its mixture. -/
theorem Fit.residual_of_step {γ : Type} [RandomSource γ α] {o : Observations α}
    {config : FitConfig α} {inner : PassiveSolve α} {cap i : Nat}
    {x : Mixture α o.dims} {g g' : γ} {s : Snapshot α o.dims}
    (h : Fit.step o config (activeSet inner cap) i x g = .ok (s, g')) :
    s.residual = o.distance s.mixture.components := by
  obtain ⟨candidates, next, -, -, hprune, rfl⟩ := Fit.step_eq_ok_iff.mp h
  -- the mixture of the snapshot is the pruned one, since pruning has one result
  obtain ⟨_, y, -, hprune', -, hresidual⟩ :=
    o.residual_of_prune (x.locations ++ candidates) inner cap
  cases hprune.symm.trans hprune'
  exact hresidual

end Exact

/-- What `fitWeights` returns is the solver's answer for the design of these
locations. -/
theorem fitWeights_eq_ok [Zero α] [Add α] [Mul α] [Neg α] [Scalar α]
    {solver : LeastSquares.Solver α} {locations signal : Table α}
    {target : List α} {answer : LeastSquares.Solution α}
    (h : fitWeights solver locations signal target = .ok answer) :
    ∃ (o : Observations α) (hcols : locations.cols = o.dims),
        Observations.ofTable signal target = .ok o ∧
      answer = solver.solve (o.design (locations.vectorsOf hcols).toList) := by
  unfold fitWeights at h
  cases hshapes : Observations.ofTable signal target with
  | error fault =>
    rw [hshapes] at h
    cases h
  | ok o =>
    rw [hshapes] at h
    simp only [bind, Except.bind] at h
    split_ifs at h with hcols
    obtain ⟨-, -, rfl⟩ := Observations.solveWeights_eq_ok_iff.mp h
    exact ⟨o, hcols, rfl, rfl⟩

section Agree

variable [Field α] [LinearOrder α] [Scalar α] [ExactScalar α]

open LeastSquares

/-- **The residuals agree.** For every pool, what `prune` leaves of it predicts
the product of its columns and the solver's coefficients, and the solver's
`residual` is the distance of that prediction from the target. This holds in
particular when weights are solved for on their own, by `fitWeights`. So in
every step of a fit the solver's residual is what `measure` finds and `record`
records of the step, and in the last step of a run it is the distance in the
results. -/
theorem residuals_agree (γ : Type) [RandomSource γ α] (inner : PassiveSolve α) :
    (∀ (o : Observations α) (pool : List (Vector α o.dims)) (cap : Nat),
      ∃ (x : Vector α pool.length) (y : Mixture α o.dims),
        ((activeSet inner cap).solve (o.design pool)).coefficients = x.toList ∧
        prune pool ((activeSet inner cap).solve (o.design pool)).coefficients = .ok y ∧
        predict y.components o.signal = (o.design pool).predict x ∧
        ((activeSet inner cap).solve (o.design pool)).residual =
          Vec.distance (predict y.components o.signal) o.target) ∧
    (∀ (locations signal : Table α) (target : List α) (cap : Nat) (answer : Solution α),
      fitWeights (activeSet inner cap) locations signal target = .ok answer →
      ∃ (o : Observations α) (hcols : locations.cols = o.dims),
          Observations.ofTable signal target = .ok o ∧
        answer = (activeSet inner cap).solve
          (o.design (locations.vectorsOf hcols).toList)) ∧
    (∀ (o : Observations α) (config : FitConfig α), ∀ s ∈ standardSteps γ inner o config,
      s.residual = Vec.distance (predict s.mixture.components o.signal) o.target ∧
      o.measure s.mixture.components = .ok s.residual ∧
      ∀ every r, o.record every s = .ok (.recorded r) → s.residual = r.residualNorm) ∧
    (∀ (c : RunConfig α) (run : FitRun α), (runFit γ inner c).result = .ok run →
      ∃ s, (standardSteps γ inner run.problem.observations c.fitConfig).getLast? =
          some s ∧
        s.mixture = run.fitted ∧ s.residual = run.distance) := by
  -- all steps of a standard fit are steps with `activeSet`
  have hstep : ∀ (o : Observations α) (config : FitConfig α),
      ∀ s ∈ standardSteps γ inner o config,
      s.residual = o.distance s.mixture.components := by
    intro o config s hs
    obtain ⟨i, x, g₁, g₂, h⟩ := exists_step_of_mem_completedSteps hs
    exact Fit.residual_of_step h
  refine ⟨fun o pool cap => o.residual_of_prune pool inner cap,
    fun _ _ _ _ _ => fitWeights_eq_ok, ?_, ?_⟩
  · intro o config s hs
    have hmeasure := measure_completedSteps hs
    refine ⟨hstep o config s hs, ?_, fun every r hr => ?_⟩
    · rw [hmeasure, hstep o config s hs]
    · rw [Observations.record_eq every hmeasure] at hr
      split_ifs at hr
      · cases hr
        exact hstep o config s hs
      · cases hr
  · intro c run h
    obtain ⟨-, hfitted, hdistance, -⟩ := runFit_eq_ok_iff.mp h
    obtain ⟨s, hs, hmixture⟩ := getLast_standardSteps hfitted
    refine ⟨s, hs, hmixture, ?_⟩
    rw [hstep _ _ s (List.mem_of_getLast? hs), hmixture, hdistance]

end Agree

/-- A stream of halves and ones. -/
structure Alternating where
  /-- Whether the next number is one. -/
  high : Bool

def Alternating.next (g : Alternating) : ℚ × Alternating :=
  (if g.high then 1 else 1 / 2, ⟨!g.high⟩)

instance : RandomSource Alternating ℚ where
  seeded _ := ⟨false⟩
  unit := Alternating.next
  below _ g := (0, g)
  normal := Alternating.next

/-- Two audiences with two identifier types, only one of which is reached. -/
def lopsidedRun : RunConfig ℚ :=
  { (RunConfig.usual : RunConfig ℚ) with
    rows := 2, truthLocations := [[1, 0]], truthWeights := [1 / 2], newCenters := 2,
      sigma := 1, maxSteps := 2,
    solverCap := 10, traceEvery := 1 }

/-- `Scalar.sqrt` over `ℚ` is not exact, so the fit of `lopsidedRun` is a poor
one, but both residuals of it are `1 / 10`. -/
theorem residuals_agree_lopsided :
    ∃ run, (runFit Alternating LeastSquares.ActiveSet.ratSolve lopsidedRun).result =
        .ok run ∧
      run.distance = 1 / 10 ∧
      ∃ s, (standardSteps Alternating LeastSquares.ActiveSet.ratSolve
          run.problem.observations lopsidedRun.fitConfig).getLast? = some s ∧
        s.mixture = run.fitted ∧ s.residual = 1 / 10 := by
  have hok : (runFit Alternating LeastSquares.ActiveSet.ratSolve
      lopsidedRun).result.toOption.any
      (fun run => decide (run.distance = 1 / 10)) = true := by
    decide +kernel
  obtain ⟨run, hrun, hdistance⟩ := exists_ok_of_any hok
  rw [decide_eq_true_iff] at hdistance
  obtain ⟨-, -, -, hlast⟩ := residuals_agree Alternating LeastSquares.ActiveSet.ratSolve
  obtain ⟨s, hs, hmixture, hresidual⟩ := hlast lopsidedRun run hrun
  exact ⟨run, hrun, hdistance, s, hs, hmixture, hresidual.trans hdistance⟩

end ReachMixture
