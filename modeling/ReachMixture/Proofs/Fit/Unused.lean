import ReachMixture.Proofs.Fit.Budget

/-!
# Settings that a fit does not use

A fit is given its solver and its random stream, so it has no use for the seed
and the solver cap among its settings. No step looks at them. But settings are
checked as a whole before the first step, and a cap of zero is refused there,
whichever solver is given.

- `FitConfig.withUnused`: settings that differ in seed and cap only.
- `FitConfig.validate_withUnused`: what the check makes of them.
- `adaptiveFit_ne_noSolverIterations`: a fit with a cap that is not zero does
  not complain about it, in no step.
- `fitTable_unused`: when fits with such settings agree, and what happens
  otherwise.
-/

namespace ReachMixture

variable {α γ σ : Type} {m : Nat}

/-- `config` with another `seed` and another `solverCap`. -/
def FitConfig.withUnused (config : FitConfig α) (seed : UInt64)
    (cap : Nat) : FitConfig α :=
  { config with seed := seed, solverCap := cap }

/-- Signal, target or settings are refused for a reason that is found before
`solverCap` is looked at. -/
def RefusedAnyway [Zero α] [LT α] [DecidableLT α] [Scalar α] (signal : Table α)
    (target : List α) (config : FitConfig α) : Prop :=
  (signal.rows = 0 ∨ signal.cols = 0 ∨ target.length ≠ signal.rows) ∨
    config.newCenters = 0 ∨ isWidth config.sigma = false ∨ config.maxSteps = 0

/-- `Observations.ofTable` refuses tables if there is nothing to fit, or if the
target does not belong to the signal. -/
theorem Observations.ofTable_eq_error {signal : Table α} {target : List α}
    (h : signal.rows = 0 ∨ signal.cols = 0 ∨ target.length ≠ signal.rows) :
    ∃ fault, Observations.ofTable signal target = .error fault := by
  unfold Observations.ofTable
  split_ifs with hsignal htarget
  · omega
  · exact ⟨_, rfl⟩
  · exact ⟨_, rfl⟩

theorem Observations.ofTable_eq_ok {signal : Table α} {target : List α}
    (h : ¬ (signal.rows = 0 ∨ signal.cols = 0 ∨ target.length ≠ signal.rows)) :
    ∃ o, Observations.ofTable signal target = .ok o := by
  unfold Observations.ofTable
  split_ifs with hsignal htarget
  · exact ⟨_, rfl⟩
  · exact absurd htarget (by omega)
  · exact absurd hsignal (by omega)

/-! ## The check of the settings -/

section Validate

variable [Zero α] [LT α] [DecidableLT α] [Scalar α]

/-- `solverCap` is the last of the settings that `validate` checks. The seed is
not checked at all. -/
theorem FitConfig.validate_withUnused (config : FitConfig α) (seed : UInt64) (cap : Nat) :
    (config.withUnused seed cap).validate =
      if config.newCenters = 0 ∨ isWidth config.sigma = false ∨ config.maxSteps = 0 then
        config.validate
      else if cap = 0 then .error .noSolverIterations
      else .ok () := by
  unfold FitConfig.validate FitConfig.withUnused
  by_cases hcenters : config.newCenters = 0
  · simp [hcenters]
  · by_cases hsigma : isWidth config.sigma = false
    · simp [hcenters, hsigma]
    · by_cases hsteps : config.maxSteps = 0
      · simp [hcenters, hsigma, hsteps]
      · simp [hcenters, hsigma, hsteps]

/-- If nothing else is wrong, `solverCap` decides. -/
theorem FitConfig.validate_of_not_refused {config : FitConfig α}
    (h : ¬ (config.newCenters = 0 ∨ isWidth config.sigma = false ∨ config.maxSteps = 0)) :
    config.validate =
      if config.solverCap = 0 then .error .noSolverIterations else .ok () :=
  (config.validate_withUnused config.seed config.solverCap).trans (if_neg h)

theorem prune_ne_noSolverIterations (pool : List (Vector α m)) (coefficients : List α) :
    prune pool coefficients ≠ .error .noSolverIterations := by
  intro h
  unfold prune Component.zip at h
  split at h
  · obtain ⟨index, weight, hfault⟩ := Mixture.ofComponents_eq_error h
    cases hfault
  · cases h

variable [One α] [Add α] [Div α] [LE α] [DecidableLE α] [NatCast α]

/-- A start is refused for its locations or its weights. -/
theorem FitConfig.initialMixture_ne_noSolverIterations
    (config : FitConfig α) (dims : Nat) :
    config.initialMixture dims ≠ .error .noSolverIterations := by
  intro h
  unfold FitConfig.initialMixture at h
  cases hstart : config.start dims with
  | error fault =>
    rw [hstart] at h
    cases h
    -- only the default start can be refused here, when there is no room for it
    unfold FitConfig.start at hstart
    split at hstart
    · cases hstart
    · rcases Capacity.reserve_bind_eq_error_iff.mp hstart with ⟨-, hfault⟩ | ⟨-, hfault⟩
      · cases hfault
      · cases hfault
  | ok t =>
    rw [hstart] at h
    simp only [bind, Except.bind] at h
    split at h
    · split at h
      · cases h
      · split at h
        · cases h
        · obtain ⟨index, weight, hfault⟩ := Mixture.ofComponents_eq_error h
          cases hfault
    · cases h

end Validate

section Fit

variable [Zero α] [Add α] [Mul α] [LT α] [LE α] [DecidableLT α] [DecidableLE α]
  [Scalar α] [RandomSource γ α]

theorem sampleCandidates_ne_noSolverIterations (components : List (Component α m))
    (count : Nat) (sigma : α) (g : γ) :
    sampleCandidates components count sigma g ≠ .error .noSolverIterations := by
  intro h
  unfold sampleCandidates at h
  split at h
  · split at h
    · rename_i fault hpicker
      cases h
      unfold Picker.ofComponents at hpicker
      split at hpicker
      · cases hpicker
      · dsimp only at hpicker
        split_ifs at hpicker
        · cases hpicker
        · cases hpicker
    · cases h
    · split at h
      · cases h
      · cases h
  · cases h

variable [Neg α]

/-- No step reads `solverCap`. -/
theorem Fit.step_ne_noSolverIterations (o : Observations α) (config : FitConfig α)
    (solver : LeastSquares.Solver α) (i : Nat) (x : Mixture α o.dims) (g : γ) :
    Fit.step o config solver i x g ≠ .error .noSolverIterations := by
  intro h
  cases hsample : sampleCandidates x.components config.newCenters config.sigma g with
  | error fault =>
    cases h.symm.trans (Fit.step_of_sample_error hsample solver i)
    exact sampleCandidates_ne_noSolverIterations _ _ _ g hsample
  | ok drawn =>
    rcases (Fit.step_eq_error_iff_of_sample hsample).mp h with ⟨hfault, -⟩ | ⟨-, hprune⟩
    · cases hfault
    · exact prune_ne_noSolverIterations _ _ hprune

variable [One α] [Div α] [NatCast α]

/-- **A fit with a cap that is not zero** is never refused because of its cap. -/
theorem adaptiveFit_ne_noSolverIterations (o : Observations α) {config : FitConfig α}
    (hcap : config.solverCap ≠ 0) (solver : Nat → LeastSquares.Solver α) (g : γ)
    (observe : σ → Snapshot α o.dims → σ) (seen : σ) :
    (adaptiveFit o config solver g observe seen).result ≠ .error .noSolverIterations := by
  intro h
  cases hstart : config.validate *> config.initialMixture o.dims with
  | error fault =>
    rw [adaptiveFit_refused hstart] at h
    cases h
    cases hvalid : config.validate with
    | error fault =>
      rw [hvalid] at hstart
      cases hstart
      unfold FitConfig.validate at hvalid
      split_ifs at hvalid
      · cases hvalid
      · cases hvalid
      · cases hvalid
    | ok _ =>
      rw [hvalid] at hstart
      exact config.initialMixture_ne_noSolverIterations o.dims hstart
  | ok start =>
    -- a fit that has started is refused by a step or not at all
    obtain ⟨y, g', result, -, hresult, hfit⟩ := adaptiveFit_outcome hstart solver g
    obtain ⟨_, hrun⟩ := hfit observe seen
    rw [hrun] at h
    rcases hresult with ⟨hok, -⟩ | ⟨fault, herror, -, hstep⟩
    · cases h.symm.trans hok
    · cases h.symm.trans herror
      exact Fit.step_ne_noSolverIterations _ _ _ _ _ _ hstep

/-- A cap of zero is refused whatever the solver is, if nothing else is wrong. -/
theorem adaptiveFit_of_cap_eq_zero (o : Observations α) (config : FitConfig α)
    (h : ¬ (config.newCenters = 0 ∨ isWidth config.sigma = false ∨ config.maxSteps = 0))
    (hcap : config.solverCap = 0) (solver : Nat → LeastSquares.Solver α) (g : γ)
    (observe : σ → Snapshot α o.dims → σ) (seen : σ) :
    adaptiveFit o config solver g observe seen =
      ⟨.error .noSolverIterations, seen, g, 0⟩ := by
  have hrefused : config.validate *> config.initialMixture o.dims =
      .error .noSolverIterations := by
    rw [config.validate_of_not_refused h, if_pos hcap]
    rfl
  exact adaptiveFit_refused hrefused solver g observe seen

/-- Steps and start do not depend on `seed` and `solverCap`, so only `validate`
can tell them apart. -/
theorem adaptiveFit_withUnused (o : Observations α)
    {config : FitConfig α} {seed : UInt64} {cap : Nat}
    (hvalid : (config.withUnused seed cap).validate = config.validate)
    (solver : Nat → LeastSquares.Solver α) (g : γ)
    (observe : σ → Snapshot α o.dims → σ) (seen : σ) :
    adaptiveFit o (config.withUnused seed cap) solver g observe seen =
      adaptiveFit o config solver g observe seen := by
  have hinitial : (config.withUnused seed cap).initialMixture o.dims =
      config.initialMixture o.dims := rfl
  rw [adaptiveFit, adaptiveFit, hvalid, hinitial]
  cases config.validate *> config.initialMixture o.dims with
  | error fault => rfl
  | ok start =>
    refine Fit.run_congr ?_ ?_ observe config.maxSteps 0 start g seen 0
    · rfl
    · rfl

/-- **Seed and cap are not used, but the cap is checked.** Take two fits of the
same tables with the same solver, the same stream and the same observer, and
with settings that differ in `seed` and `solverCap` only. They agree in
everything, the calls of the observer included, if the cap is zero in both
settings or in none of them, or if tables or settings are `RefusedAnyway`.
Otherwise they do not agree: the one with the cap of zero ends with
`noSolverIterations`, without a single call of the observer, and the other one
does not. -/
theorem fitTable_unused (signal : Table α) (target : List α) (config : FitConfig α)
    (seed : UInt64) (cap : Nat) (solver : Nat → LeastSquares.Solver α) (g : γ)
    (observe : (m : Nat) → σ → Snapshot α m → σ) (seen : σ) :
    ((cap = 0 ↔ config.solverCap = 0) ∨ RefusedAnyway signal target config →
      fitTable signal target (config.withUnused seed cap) solver g observe seen =
        fitTable signal target config solver g observe seen) ∧
    (¬ ((cap = 0 ↔ config.solverCap = 0) ∨ RefusedAnyway signal target config) →
      ∃ (m : Nat) (r r' : FitOutcome α γ σ m),
        fitTable signal target config solver g observe seen = ⟨m, r⟩ ∧
        fitTable signal target (config.withUnused seed cap) solver g
          observe seen = ⟨m, r'⟩ ∧
        (config.solverCap = 0 → r = ⟨.error .noSolverIterations, seen, g, 0⟩ ∧
          r'.result ≠ .error .noSolverIterations) ∧
        (cap = 0 → r' = ⟨.error .noSolverIterations, seen, g, 0⟩ ∧
          r.result ≠ .error .noSolverIterations)) := by
  constructor
  · intro h
    cases hshapes : Observations.ofTable signal target with
    | error fault =>
      have hrefused : ∀ settings : FitConfig α,
          checkedStart signal target settings = .error fault :=
        fun _ => bind_eq_error_iff.mpr (.inl hshapes)
      rw [fitTable_refused solver g observe seen (hrefused _),
        fitTable_refused solver g observe seen (hrefused _)]
    | ok o =>
      -- tables, solver, stream and observer are the same, so the check of the
      -- settings is all that could differ
      have hsame : (config.withUnused seed cap).validate = config.validate := by
        rw [config.validate_withUnused]
        by_cases hbefore : config.newCenters = 0 ∨
          isWidth config.sigma = false ∨ config.maxSteps = 0
        · rw [if_pos hbefore]
        · rw [if_neg hbefore, config.validate_of_not_refused hbefore]
          rcases h with hcaps | htables | hsettings
          · simp only [hcaps]
          · obtain ⟨fault, hfault⟩ := Observations.ofTable_eq_error htables
            exact nomatch hshapes.symm.trans hfault
          · exact absurd hsettings hbefore
      rw [fitTable_of_shapes _ _ _ _ _ hshapes, fitTable_of_shapes _ _ _ _ _ hshapes,
        adaptiveFit_withUnused o hsame]
  · intro h
    rw [not_or, RefusedAnyway, not_or] at h
    -- one cap is zero, the other one is not, and there is nothing else to
    -- complain about in front of them
    obtain ⟨hcaps, htables, hbefore⟩ := h
    obtain ⟨o, hshapes⟩ := Observations.ofTable_eq_ok htables
    refine ⟨o.dims, adaptiveFit o config solver g (observe o.dims) seen,
      adaptiveFit o (config.withUnused seed cap) solver g (observe o.dims) seen,
      fitTable_of_shapes _ _ _ _ _ hshapes, fitTable_of_shapes _ _ _ _ _ hshapes, ?_, ?_⟩
    · intro hzero
      refine ⟨adaptiveFit_of_cap_eq_zero o config hbefore hzero solver g _ seen, ?_⟩
      exact adaptiveFit_ne_noSolverIterations o
        (fun hcap => hcaps ⟨fun _ => hzero, fun _ => hcap⟩) solver g _ seen
    · intro hcap
      refine ⟨adaptiveFit_of_cap_eq_zero o (config.withUnused seed cap) hbefore hcap
        solver g _ seen, ?_⟩
      exact adaptiveFit_ne_noSolverIterations o
        (fun hzero => hcaps ⟨fun _ => hzero, fun _ => hcap⟩) solver g _ seen

end Fit

/-- A single step with one candidate, and with a `solverCap` of zero. -/
def idleSearch : FitConfig Float :=
  { shortSearch with newCenters := 1, maxSteps := 1, solverCap := 0 }

/-- The cap of zero is refused although `constantSolver` has no cap. With a cap
of one, which the solver does not see either, the step is taken and reported. -/
theorem fitTable_idle :
    fitTable singleAudience [0.5] idleSearch (fun _ => constantSolver 0.0) shortDraws
        (fun _ count _ => count + 1) 0 =
      ⟨1, .error .noSolverIterations, 0, shortDraws, 0⟩ ∧
    ∃ r, fitTable singleAudience [0.5] (idleSearch.withUnused 0 1)
      (fun _ => constantSolver 0.0) shortDraws (fun _ count _ => count + 1) 0 = ⟨1, r⟩ ∧
      r.observed = 1 ∧ ∃ y, r.result = .ok y ∧ y.size = 0 := by
  have hshapes : Observations.ofTable singleAudience [0.5] = .ok singleObservations := rfl
  have hok : (adaptiveFit singleObservations (idleSearch.withUnused 0 1)
      (fun _ => constantSolver 0.0) shortDraws (fun count _ => count + 1)
      0).result.toOption.any (fun y => decide (y.size = 0)) = true := by
    decide +kernel
  obtain ⟨y, hy, hsize⟩ := exists_ok_of_any hok
  constructor
  · rw [fitTable_of_shapes _ _ _ _ _ hshapes]
    exact congrArg _ (adaptiveFit_of_cap_eq_zero singleObservations idleSearch
      (by decide +kernel) rfl _ _ _ _)
  · refine ⟨_, fitTable_of_shapes _ _ _ _ _ hshapes, ?_, y, hy, of_decide_eq_true hsize⟩
    decide +kernel

end ReachMixture
