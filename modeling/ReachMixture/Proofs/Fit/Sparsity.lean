import ReachMixture.Proofs.Fit.Prediction
import ReachMixture.Proofs.LeastSquares.Independence

/-!
# Fitted mixtures are small

However many candidates a fit proposes, in exact arithmetic a step never keeps
more of them than there are audiences: the locations that are kept belong to
passive columns of `activeSet`, and these are linearly independent.

- `size_of_prune`: `prune` keeps as many components as coefficients carry
  weight.
- `length_standardSteps`: fits with `activeSet` do not end early while there is
  room.
- `sparsity_bound`: independence of the passive columns, with its consequences
  for trials, answers and fits.
-/

namespace ReachMixture

variable {α : Type}

open LeastSquares LeastSquares.ActiveSet

theorem size_of_prune {m : Nat} [Zero α] [LT α] [DecidableLT α] [Scalar α]
    {pool : List (Vector α m)} {coefficients : List α} {x : Mixture α m}
    (h : prune pool coefficients = .ok x) :
    x.size = coefficients.countP carriesWeight := by
  have hsize : x.size = (x.weights.zip x.locations).length := by
    rw [x.zip_weights_locations, List.length_map, Mixture.size]
  have hcoefficients : (coefficients.zip pool).map Prod.fst = coefficients :=
    List.map_fst_zip (prune_eq_ok h).1.le
  calc x.size = ((coefficients.zip pool).filter fun p => carriesWeight p.1).length := by
        rw [hsize, zip_of_prune h]
        rfl
    _ = ((coefficients.zip pool).map Prod.fst).countP carriesWeight := by
        rw [List.countP_map, List.countP_eq_length_filter]
        rfl
    _ = coefficients.countP carriesWeight := by rw [hcoefficients]

section Exact

variable [Field α] [LinearOrder α] [IsStrictOrderedRing α] [Scalar α] [ExactScalar α]

/-- A step with `activeSet` keeps at most `o.rows` components. -/
theorem Fit.size_le_of_step {γ : Type} [RandomSource γ α] (helim : ExactElimination α)
    (fallback : {n k : Nat} → Design α n k → Option (Vector α k))
    {o : Observations α} {config : FitConfig α} {cap i : Nat}
    {x : Mixture α o.dims} {g g' : γ} {s : Snapshot α o.dims}
    (h : Fit.step o config (activeSet (gramSolve fallback) cap) i x g = .ok (s, g')) :
    s.mixture.size ≤ o.rows := by
  obtain ⟨candidates, -, hprune⟩ := Fit.step_eq_ok h
  rw [size_of_prune hprune, funext carriesWeight_eq]
  exact countP_coefficients_le fallback helim cap _

omit [IsStrictOrderedRing α] in
/-- **A fit with `activeSet` takes all its steps** if the candidates of a step
have room, and so has the pool that they make with any mixture of the fit. -/
theorem length_standardSteps {γ : Type} [RandomSource γ α] (inner : PassiveSolve α)
    {o : Observations α} {config : FitConfig α} {start : Mixture α o.dims}
    (hstart : config.validate *> config.initialMixture o.dims = .ok start)
    (hcandidates : config.newCenters < Capacity.rows)
    (hroom : ∀ x ∈ start :: (standardSteps γ inner o config).map Snapshot.mixture,
      o.HasRoom (activeSet inner config.solverCap) (x.size + config.newCenters)) :
    (standardSteps γ inner o config).length = config.maxSteps := by
  have hsigma := (FitConfig.validate_eq_ok (FitConfig.of_accepted hstart).1).2.1
  obtain ⟨stream, result, -, hcount, -, -, hsteps⟩ := adaptiveFit_steps hstart
    (fun _ => activeSet inner config.solverCap) (RandomSource.seeded α config.seed : γ)
  refine hcount.eq_of_not_lt fun hlt => ?_
  -- the step behind the completed ones would neither complete nor have a reason
  -- not to
  have hx : (start :: (standardSteps γ inner o config).map
      Snapshot.mixture)[(standardSteps γ inner o config).length]? =
      some _ := List.getElem?_eq_getElem (by simp)
  obtain ⟨hok, -⟩ := hsteps _ _ hx hlt
  cases hstep : Fit.step o config (activeSet inner config.solverCap) (standardSteps γ
    inner o config).length _ (stream (standardSteps γ inner o config).length) with
  | ok next =>
    have hnext := ((hok next.1 next.2).mp hstep).1
    have hnone : (standardSteps γ inner o
        config)[(standardSteps γ inner o config).length]? = none :=
      List.getElem?_eq_none le_rfl
    exact nomatch hnone.symm.trans hnext
  | error fault =>
    cases (Fit.step_eq_error_iff hsigma (fun _ => ExactScalar.isFinite_eq_true _)
      _ _ _).mp hstep with
    | unbounded _ _ hsum => exact nomatch hsum.symm.trans (ExactScalar.isFinite_eq_true _)
    | crowded _ _ hcount => exact absurd hcandidates hcount.not_gt
    | cramped h => exact Fit.not_cramped (hroom _ (List.mem_of_getElem? hx)) _ h
    | mismatch _ _ _ _ hlength =>
      exact hlength (by rw [activeSet_coefficients, Vector.length_toList])

/-- In exact arithmetic the mixtures of a fit have at most
`max start.size o.rows` components, so there is room for all steps if there is
room for one. -/
theorem length_standardSteps_gramSolve {γ : Type}
    [RandomSource γ α] (helim : ExactElimination α)
    (fallback : {n k : Nat} → Design α n k → Option (Vector α k))
    {o : Observations α} {config : FitConfig α} {start : Mixture α o.dims}
    (hstart : config.validate *> config.initialMixture o.dims = .ok start)
    (hcandidates : config.newCenters < Capacity.rows)
    (hroom : o.HasRoom (activeSet (gramSolve fallback) config.solverCap)
      (max start.size o.rows + config.newCenters)) :
    (standardSteps γ (gramSolve fallback) o config).length = config.maxSteps := by
  refine length_standardSteps _ hstart hcandidates fun x hx =>
    hroom.mono (Nat.add_le_add_right ?_ config.newCenters)
  rcases List.mem_cons.mp hx with rfl | hx
  · exact le_max_left _ _
  · obtain ⟨s, hs, rfl⟩ := List.mem_map.mp hx
    obtain ⟨i, y, g₁, g₂, hstep⟩ := exists_step_of_mem_completedSteps hs
    exact (Fit.size_le_of_step helim fallback hstep).trans (le_max_right _ _)

/-- **Sparsity.** If elimination succeeds exactly on positive definite systems
and then solves them (`ExactElimination`), the passive columns are linearly
independent at every `stage` of an active-set run, before and after a column
enters or the point retreats. So the normal equations of every trial are
positive definite, and the trial is what elimination answers, whatever
`fallback` is. The coefficients that come back have at most as many positive
ones as the problem has rows, and every step of a fit leaves at most `o.rows`
components, however many candidates it draws. So the fit takes all its steps if
there is room for the candidates and for their pool with the start or with
`o.rows` components. -/
theorem sparsity_bound (helim : ExactElimination α)
    (fallback : {n k : Nat} → Design α n k → Option (Vector α k)) :
    (∀ {n k : Nat} (d : Design α n k) (m : Nat),
      LinearIndepOn α d.column
        {j | ((Setting.ofDesign (gramSolve fallback) d).stage m).state.passive.get j =
          true} ∧
      ∀ p, (Setting.ofDesign (gramSolve fallback) d).stage m = .pending p →
        LinearIndepOn α d.column {j | p.tried.passive.get j = true} ∧
        PositiveDefinite (d.normal.select p.tried.free).gram ∧
        ∃ z, (d.normal.select p.tried.free).direct? = some z ∧
          (Setting.ofDesign (gramSolve fallback) d).trial p.tried =
            some (scatter p.tried.free z)) ∧
    (∀ {n k : Nat} (d : Design α n k) (cap : Nat),
      ((activeSet (gramSolve fallback) cap).solve d).coefficients.countP
        (fun v => decide (0 < v)) ≤ n) ∧
    ∀ (γ : Type) [RandomSource γ α] (o : Observations α) (config : FitConfig α),
      (∀ s ∈ standardSteps γ (gramSolve fallback) o config, s.mixture.size ≤ o.rows) ∧
      ∀ start, config.validate *> config.initialMixture o.dims = .ok start →
        config.newCenters < Capacity.rows →
        o.HasRoom (activeSet (gramSolve fallback) config.solverCap)
          (max start.size o.rows + config.newCenters) →
        (standardSteps γ (gramSolve fallback) o config).length = config.maxSteps := by
  refine ⟨fun d m => ?_, fun d cap => countP_coefficients_le fallback helim cap d, ?_⟩
  · have hsound := Setting.stage_sound (d := d) fallback helim m
    refine ⟨hsound.independent, fun p hp => ?_⟩
    rw [hp] at hsound
    obtain ⟨last, hlast⟩ := hsound.descending
    have htried := Pending.tried_independent hlast hsound.independent
    obtain ⟨z, hdirect, htrial, -⟩ := hsound.trial fallback helim
    exact ⟨htried, htried.positiveDefinite, z, hdirect, htrial⟩
  · intro γ _ o config
    refine ⟨fun s hs => ?_, fun start => length_standardSteps_gramSolve helim fallback⟩
    obtain ⟨i, x, g₁, g₂, hstep⟩ := exists_step_of_mem_completedSteps hs
    exact Fit.size_le_of_step helim fallback hstep

end Exact

/-- Three columns on one line, two of them equal. -/
noncomputable def collinearDesign : Design ℝ 1 3 := ⟨#v[#v[1], #v[1], #v[-1]], #v[1]⟩

/-- A thousand candidates for a single audience. -/
noncomputable def generousFit : Observations ℝ × FitConfig ℝ :=
  (⟨1, 1, #v[#v[1]], #v[1], Nat.one_pos, Nat.one_pos⟩,
    { newCenters := 1000, sigma := 1, maxSteps := 10, initialLocations := none, seed := 0,
      solverCap := 100 })

/-- `generousFit` starts with one location, and there is room for all its pools. -/
theorem generousFit_accepted :
    ∃ start, generousFit.2.validate *>
        generousFit.2.initialMixture generousFit.1.dims = .ok start ∧
      generousFit.1.HasRoom (activeSet (gramSolve fun _ => none) generousFit.2.solverCap)
        (max start.size generousFit.1.rows + generousFit.2.newCenters) := by
  have hvalid : generousFit.2.validate = .ok () := by
    simp [generousFit, FitConfig.validate, isWidth, ExactScalar.isFinite_eq_true]
  have hlocations : generousFit.2.start 1 = .ok (.fill 1 1 1) :=
    FitConfig.start_eq_ok_iff.mpr (.inr ⟨rfl, by decide, rfl⟩)
  have hfind : (Table.fill 1 1 (1 : ℝ)).findRow?
      (fun l => !FitConfig.isStart l.toList) = none := by
    simp [Table.fill, Table.findRow?, Table.findFrom?, FitConfig.isStart,
      ExactScalar.isFinite_eq_true]
  have hcols : (Table.fill 1 1 (1 : ℝ)).cols = 1 := rfl
  have hrows : (Table.fill 1 1 (1 : ℝ)).rows ≠ 0 := one_ne_zero
  have hinitial : ∃ start,
      generousFit.2.initialMixture generousFit.1.dims = .ok start := by
    show ∃ start, generousFit.2.initialMixture 1 = .ok start
    rw [FitConfig.initialMixture, hlocations]
    simp only [bind, Except.bind]
    rw [dif_pos hcols, if_neg hrows, hfind]
    refine ⟨_, Mixture.ofComponents_of_isWeight fun c hc => ?_⟩
    obtain ⟨l, -, rfl⟩ := List.mem_map.mp hc
    exact ⟨ExactScalar.isFinite_eq_true _, not_lt.mpr (by positivity)⟩
  obtain ⟨start, hstart⟩ := hinitial
  refine ⟨start, ?_, ?_⟩
  · rw [hvalid]
    exact hstart
  · rw [FitConfig.size_initialMixture rfl hstart]
    exact ⟨by decide, by decide, by decide⟩

/-- Of the columns of `collinearDesign` at most one gets a positive coefficient,
and the single audience of `generousFit` gets at most one component in each of
ten steps. -/
theorem sparsity_bound_collinear :
    ExactElimination ℝ ∧ collinearDesign.column 0 = collinearDesign.column 1 ∧
    (∀ cap, ((activeSet (gramSolve fun _ => none) cap).solve
      collinearDesign).coefficients.countP (fun v => decide (0 < v)) ≤ 1) ∧
    (standardSteps (Playback ℝ) (gramSolve fun _ => none) generousFit.1
      generousFit.2).length = 10 ∧
    ∀ s ∈ standardSteps (Playback ℝ) (gramSolve fun _ => none) generousFit.1
      generousFit.2, s.mixture.size ≤ 1 := by
  obtain ⟨-, hanswers, hfits⟩ := sparsity_bound (α := ℝ) exactElimination fun _ => none
  obtain ⟨hsizes, hlength⟩ := hfits (Playback ℝ) generousFit.1 generousFit.2
  obtain ⟨start, hstart, hroom⟩ := generousFit_accepted
  exact ⟨exactElimination, rfl, hanswers collinearDesign,
    hlength start hstart (by decide) hroom, hsizes⟩

end ReachMixture
