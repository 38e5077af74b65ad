import ReachMixture.Proofs.Fit.Extinction
import ReachMixture.Proofs.Fit.Region
import ReachMixture.Proofs.Fit.Residuals
import ReachMixture.Proofs.LeastSquares.Caps

/-!
# When nothing is left

A fit loses all its components in a step whose solve answers with zeros. In
exact arithmetic this depends on the first look of the active-set method alone:
if some column has an inner product with the target above the tolerance, the
first trial already lowers the cost, and no later one raises it again, so the
point never gets back to zero. Hence a target may well have positive entries and
still leave nothing of a fit; but a target without any does so at once.

- `Design.Flat`, `stage_of_flat`, `stage_one_cost_lt`: what the first look
  finds, and what follows from it.
- `coefficients_eq_zero_iff`: when the answer is zero.
- `Fit.exists_step_iff`, `Fit.eq_empty_of_step_iff`: when a step completes, and
  when it leaves no components. `Fit.eq_empty_of_step` is the case of targets
  without positive entries.
- `vanishes_iff`: **the exact condition** for answers, for steps and for targets
  without positive entries.
-/

namespace ReachMixture

variable {α γ : Type}

open LeastSquares LeastSquares.ActiveSet

section Answers

variable {n k : Nat} [Field α] [LinearOrder α] [Scalar α]

/-- The gradient `Aᵀb` at zero has no entry above the tolerance. -/
def LeastSquares.Design.Flat (d : Design α n k) : Prop :=
  ∀ j, Vec.dot (d.columns.get j) d.target ≤ d.tolerance

variable {inner : PassiveSolve α} {d : Design α n k}

/-- A run on a `Flat` design converges at its start, whatever its trials would
answer. -/
theorem stage_of_flat (h : d.Flat) (m : Nat) :
    (Setting.ofDesign inner d).stage m = .converged (.start k) := by
  refine Setting.stage_of_converged (m := 0) ?_ (Nat.zero_le m)
  cases (Setting.ofDesign inner d).choice (.start k) with
  | converged _ hv => exact hv
  | enter j hj _ =>
    obtain ⟨-, -, hsteep⟩ := State.of_entering hj
    have hgradient :
        ((Setting.ofDesign inner d).normal.gradient (State.start k).point).get j =
        Vec.dot (d.columns.get j) d.target := by
      show (d.normal.gradient _).get j = _
      rw [d.normal_gradient, gradient_start]
    rw [hgradient] at hsteep
    exact absurd hsteep (h j).not_gt

variable [IsStrictOrderedRing α] [ExactScalar α]

/-- A run on a design that is not `Flat` accepts its first trial, which lowers
the cost. -/
theorem stage_one_cost_lt (hexact : inner.Exact d)
    (htotal : inner.Total d) (h : ¬ d.Flat) :
    d.cost ((Setting.ofDesign inner d).stage 1).state.point <
      d.cost (State.start k).point := by
  rw [Setting.stage_succ]
  show d.cost ((Setting.ofDesign inner d).next
    ((Setting.ofDesign inner d).choose (.start k))).state.point < _
  have hdescending : ((Setting.ofDesign inner d).choose (.start k)).Descending
      d (.start k) :=
    choose_descending (State.start_settled d)
  cases (Setting.ofDesign inner d).choice (.start k) with
  | converged _ hv =>
    rw [hv] at hdescending
    refine absurd (fun j => ?_) h
    rw [← gradient_start d j]
    exact hdescending.2.2 j
  | enter j _ hv =>
    rw [hv] at hdescending ⊢
    show d.cost ((Setting.ofDesign inner d).advance (.enter (.start k) j)).state.point < _
    cases Setting.descent hexact hdescending with
    | stuck htrial _ =>
      obtain ⟨z, hz⟩ := htotal _ (State.free_sublist _)
      cases htrial.symm.trans hz
    | accept z _ _ _ hcost hv =>
      rw [hv, Setting.choose_state]
      exact hcost
    | retreat z htrial hnot _ _ =>
      -- the column that entered is the only passive one, and its coefficient is
      -- positive
      obtain ⟨i, hi, hzi⟩ := hnot
      have hij : i = j := by
        by_contra hne
        simp [Pending.tried, State.enter_passive_get, hne] at hi
      have hsolved := hexact _ z (State.free_sublist _) htrial
      exact absurd ((Pending.tried_promising hdescending hsolved).2 rfl) (hij ▸ hzi)

/-- **When the answer is zero.** By `stage_one_cost_lt` the first trial lowers
the cost if there is something to gain, and nothing that the run does afterwards
brings it back to zero. -/
theorem coefficients_eq_zero_iff (hexact : inner.Exact d) (htotal : inner.Total d)
    {cap : Nat} (hcap : 1 ≤ cap) :
    ((activeSet inner cap).solve d).coefficients = List.replicate k 0 ↔ d.Flat := by
  rw [activeSet_coefficients]
  constructor
  · intro hzero
    by_contra hsteep
    have hpoint : ((Setting.ofDesign inner d).stage cap).state.point =
        (State.start k).point := by
      refine Vector.toList_inj.mp (hzero.trans ?_)
      exact Vector.toList_replicate.symm
    have hle : d.cost ((Setting.ofDesign inner d).stage cap).state.point ≤ _ :=
      stage_cost_antitone hexact hcap
    rw [hpoint] at hle
    exact hle.not_gt (stage_one_cost_lt hexact htotal hsteep)
  · intro hflat
    rw [stage_of_flat hflat]
    exact Vector.toList_replicate

end Answers

/-! ## Steps -/

section Steps

variable [Field α] [LinearOrder α] [Scalar α] [ExactScalar α]

namespace Observations

variable (o : Observations α)

omit [LinearOrder α] [ExactScalar α] in
theorem design_columns_get (pool : List (Vector α o.dims)) (j : Fin pool.length) :
    (o.design pool).columns.get j = reachRow o.signal (pool.get j) := by
  simp [Observations.design, ReachMixture.design, Vec.ofList, Vector.get_eq_getElem]

omit [ExactScalar α] in
theorem flat_iff (pool : List (Vector α o.dims)) : (o.design pool).Flat ↔
    ∀ l ∈ pool, Vec.dot (reachRow o.signal l) o.target ≤ (o.design pool).tolerance := by
  constructor
  · intro h l hl
    obtain ⟨j, rfl⟩ := List.mem_iff_get.mp hl
    rw [← o.design_columns_get]
    exact h j
  · intro h j
    rw [o.design_columns_get]
    exact h _ (List.get_mem pool j)

variable {o} [IsStrictOrderedRing α]

/-- The design of locations without negative coordinates is `Flat` if no
audience is to be reached at all. -/
theorem flat_of_nonpos (hexp : ∀ v : α, v ≤ 0 → Scalar.expm1 v ≤ 0)
    (hsignal : ∀ row j, 0 ≤ (o.signal.get row).get j)
    (htarget : ∀ row, o.target.get row ≤ 0) {pool : List (Vector α o.dims)}
    (hpool : ∀ l ∈ pool, ∀ j, 0 ≤ l.get j) : (o.design pool).Flat := by
  intro j
  refine le_trans ?_ ((o.design pool).tolerance_nonneg ExactScalar.epsilon_nonneg)
  rw [Vec.dot_eq]
  refine Finset.sum_nonpos fun row _ => mul_nonpos_of_nonneg_of_nonpos ?_ (htarget row)
  rw [o.design_column]
  refine neg_nonneg.mpr (hexp _ (neg_nonpos.mpr ?_))
  rw [Vec.dot_eq]
  exact Finset.sum_nonneg fun i _ =>
    mul_nonneg (hpool _ (List.get_mem pool j) i) (hsignal row i)

end Observations

/-- `prune` leaves nothing if all coefficients are zero, and only then, if none
is negative. -/
theorem eq_empty_of_prune_iff {m : Nat} {pool : List (Vector α m)}
    {x : Vector α pool.length} (hx : ∀ j, 0 ≤ x.get j) {y : Mixture α m}
    (h : prune pool x.toList = .ok y) :
    y = .empty m ↔ x.toList = List.replicate pool.length 0 := by
  have hsize : y = .empty m ↔ y.size = 0 := by
    constructor
    · rintro rfl
      rfl
    · intro hzero
      exact Mixture.eq_empty (List.isEmpty_iff.mpr (List.length_eq_zero_iff.mp hzero))
  have hnonneg : ∀ v ∈ x.toList, 0 ≤ v := by
    intro v hv
    obtain ⟨i, hi, rfl⟩ := Vector.mem_iff_getElem.mp (Vector.mem_toList_iff.mp hv)
    exact hx ⟨i, hi⟩
  rw [hsize, size_of_prune h, List.countP_eq_zero, List.eq_replicate_iff]
  simp only [carriesWeight_eq, decide_eq_true_iff, not_lt, Vector.length_toList, true_and]
  exact forall₂_congr fun v hv =>
    ⟨fun hle => le_antisymm hle (hnonneg v hv), fun heq => heq.le⟩

variable [RandomSource γ α]

namespace Fit

variable {o : Observations α} {config : FitConfig α}

/-- A step with `activeSet` completes, once its candidates are drawn, iff its
pool has room. -/
theorem exists_step_iff (inner : PassiveSolve α) (cap i : Nat)
    {x : Mixture α o.dims} {g g' : γ} {candidates : List (Vector α o.dims)}
    (hsample : sampleCandidates x.components config.newCenters config.sigma g =
      .ok (candidates, g')) :
    (∃ s, step o config (activeSet inner cap) i x g = .ok (s, g')) ↔
      o.HasRoom (activeSet inner cap) (x.locations ++ candidates).length := by
  constructor
  · rintro ⟨s, h⟩
    obtain ⟨candidates', _, hsample', hroom, -⟩ := step_eq_ok_iff.mp h
    cases hsample.symm.trans hsample'
    exact hroom
  · intro hroom
    obtain ⟨z, hz, -⟩ := activeSet_point inner cap (o.design (x.locations ++ candidates))
    obtain ⟨y, hprune⟩ := o.exists_prune (x.locations ++ candidates) z
    exact ⟨_, step_eq_ok_iff.mpr ⟨candidates, y, hsample, hroom, hz ▸ hprune, rfl⟩⟩

/-- It leaves no components iff the coefficients of its pool are zero. -/
theorem eq_empty_of_step_iff {inner : PassiveSolve α} {cap i : Nat} {x : Mixture α o.dims}
    {g g' g₁ : γ} {candidates : List (Vector α o.dims)} {s : Snapshot α o.dims}
    (hsample : sampleCandidates x.components config.newCenters config.sigma g =
      .ok (candidates, g₁))
    (h : step o config (activeSet inner cap) i x g = .ok (s, g')) :
    s.mixture = .empty o.dims ↔
      ((activeSet inner cap).solve (o.design (x.locations ++ candidates))).coefficients =
        List.replicate (x.locations ++ candidates).length 0 := by
  obtain ⟨candidates', hsample', hprune⟩ := step_eq_ok h
  cases hsample.symm.trans hsample'
  obtain ⟨z, hz, hnonneg, -⟩ :=
    activeSet_point inner cap (o.design (x.locations ++ candidates))
  rw [hz] at hprune ⊢
  exact eq_empty_of_prune_iff hnonneg hprune

variable [IsStrictOrderedRing α]

/-- A step with `activeSet` leaves no components if no audience is to be reached
at all. -/
theorem eq_empty_of_step (hexp : ∀ v : α, v ≤ 0 → Scalar.expm1 v ≤ 0)
    (hsignal : ∀ row j, 0 ≤ (o.signal.get row).get j)
    (htarget : ∀ row, o.target.get row ≤ 0)
    {inner : PassiveSolve α} {cap i : Nat} {x : Mixture α o.dims}
    (hx : ∀ l ∈ x.locations, ∀ j, 0 ≤ l.get j) {g g' : γ} {s : Snapshot α o.dims}
    (h : step o config (activeSet inner cap) i x g = .ok (s, g')) :
    s.mixture = .empty o.dims := by
  obtain ⟨candidates, hsample, -⟩ := step_eq_ok h
  have hpool : ∀ l ∈ x.locations ++ candidates, ∀ j, 0 ≤ l.get j := by
    intro l hl j
    rcases List.mem_append.mp hl with hold | hnew
    · exact hx l hold j
    · exact (inRegion_of_sampleCandidates hsample l hnew j).le
  refine (eq_empty_of_step_iff hsample h).mpr ?_
  rw [activeSet_coefficients,
    stage_of_flat (Observations.flat_of_nonpos hexp hsignal htarget hpool)]
  exact Vector.toList_replicate

end Fit

variable [IsStrictOrderedRing α]

omit [ExactScalar α] [IsStrictOrderedRing α] in
theorem size_le_of_forall_empty {m : Nat} {start x : Mixture α m}
    {steps : List (Snapshot α m)} (h : ∀ s ∈ steps, s.mixture = .empty m)
    (hx : x ∈ start :: steps.map Snapshot.mixture) :
    x.size ≤ start.size := by
  rcases List.mem_cons.mp hx with rfl | hx
  · exact le_rfl
  · obtain ⟨s, hs, rfl⟩ := List.mem_map.mp hx
    rw [h s hs]
    exact Nat.zero_le _

/-- Every step of such a fit leaves no components. By `Trace.invariant`, with
locations that stay nonnegative. -/
theorem eq_empty_of_mem_standardSteps (γ : Type) [RandomSource γ α]
    (inner : PassiveSolve α) {o : Observations α}
    {config : FitConfig α} (hexp : ∀ v : α, v ≤ 0 → Scalar.expm1 v ≤ 0)
    (hsignal : ∀ row j, 0 ≤ (o.signal.get row).get j)
    (hown : ∀ t, config.initialLocations = some t → ∀ i j, 0 ≤ (t.row i).get j)
    (htarget : ∀ row, o.target.get row ≤ 0) :
    ∀ s ∈ standardSteps γ inner o config, s.mixture = .empty o.dims := by
  intro s hs
  cases hstart : config.validate *> config.initialMixture o.dims with
  | error fault =>
    rw [standardSteps, standardFit, adaptiveFit_refused hstart] at hs
    cases hs
  | ok start =>
    have hfirst := FitConfig.coordinate_of_initialMixture
      (FitConfig.of_accepted hstart).2 zero_le_one hown
    obtain ⟨y, g', result, htrace, -⟩ := adaptiveFit_outcome hstart
      (fun _ => activeSet inner config.solverCap) (RandomSource.seeded α config.seed : γ)
    -- a step begins without negative coordinates, for it is the first or begins
    -- without components
    have hmixtures := htrace.invariant
      (P := fun x => ∀ l ∈ x.locations, ∀ j, 0 ≤ l.get j) (by
      intro i x s g g' hx hstep
      rw [Fit.eq_empty_of_step hexp hsignal htarget hx hstep]
      exact fun l hl => absurd hl List.not_mem_nil) hfirst
    obtain ⟨stream, -, -, hsteps⟩ := htrace.steps
    obtain ⟨i, hi⟩ := List.getElem?_of_mem hs
    obtain ⟨before, hbefore, hstep⟩ := hsteps i s hi
    exact Fit.eq_empty_of_step hexp hsignal htarget
      (hmixtures before (List.mem_of_getElem? hbefore)) hstep

/-- **When nothing is left.** Let all trials be answered with solutions of their
normal equations (`inner.Exact`, `inner.Total`), and let at least one of them be
allowed. Then `activeSet` answers with zeros iff no column has an inner product
with the target above the tolerance. A step of a fit, once its candidates are
drawn, completes iff its pool has room, and then it leaves no components iff
this is true of the reach of every location in its pool. If the counts of all
audiences, the coordinates of the starting locations and the reach at rates that
are not negative are not negative either, and no audience is to be reached at
all, then every step leaves no components, whatever the trials answer; and if
there is room for the candidates and for their pool with the start, all steps
are taken and the fit ends with the empty mixture. -/
theorem vanishes_iff (inner : PassiveSolve α) :
    (∀ {n k : Nat} (d : Design α n k) (cap : Nat), 1 ≤ cap →
        inner.Exact d → inner.Total d →
      (((activeSet inner cap).solve d).coefficients = List.replicate k 0 ↔
        ∀ j, Vec.dot (d.columns.get j) d.target ≤ d.tolerance)) ∧
    ∀ (γ : Type) [RandomSource γ α] (o : Observations α) (config : FitConfig α),
        config.validate = .ok () →
      (∀ (i : Nat) (x : Mixture α o.dims) (g g' : γ)
          (candidates pool : List (Vector α o.dims)), sampleCandidates x.components
          config.newCenters config.sigma g = .ok (candidates, g') →
        pool = x.locations ++ candidates →
        ((∃ s, Fit.step o config (activeSet inner config.solverCap) i x g = .ok (s, g')) ↔
          o.HasRoom (activeSet inner config.solverCap) pool.length) ∧
        (inner.Exact (o.design pool) → inner.Total (o.design pool) →
          ∀ s, Fit.step o config (activeSet inner config.solverCap) i x g = .ok (s, g') →
            (s.mixture = .empty o.dims ↔
              ∀ l ∈ pool, Vec.dot (reachRow o.signal l) o.target ≤
                (o.design pool).tolerance))) ∧
      ((∀ v : α, v ≤ 0 → Scalar.expm1 v ≤ 0) → (∀ row j, 0 ≤ (o.signal.get row).get j) →
        (∀ t, config.initialLocations = some t → ∀ i j, 0 ≤ (t.row i).get j) →
        (∀ row, o.target.get row ≤ 0) →
        (∀ s ∈ standardSteps γ inner o config, s.mixture = .empty o.dims) ∧
        ∀ start, config.initialMixture o.dims = .ok start →
            config.newCenters < Capacity.rows →
          o.HasRoom (activeSet inner config.solverCap) (start.size + config.newCenters) →
          (standardSteps γ inner o config).length = config.maxSteps ∧
          ∀ (σ : Type) (observe : σ → Snapshot α o.dims → σ) (seen : σ),
            (standardFit γ inner o config observe seen).result =
              .ok (.empty o.dims)) := by
  refine ⟨fun d cap hcap hexact htotal => coefficients_eq_zero_iff hexact htotal hcap, ?_⟩
  intro γ _ o config hvalid
  obtain ⟨-, -, hsteps, hcap⟩ := FitConfig.validate_eq_ok hvalid
  refine ⟨?_, fun hexp hsignal hown htarget => ?_⟩
  · rintro i x g g' candidates _ hsample rfl
    refine ⟨Fit.exists_step_iff inner config.solverCap i hsample,
      fun hexact htotal s hstep => ?_⟩
    rw [Fit.eq_empty_of_step_iff hsample hstep,
      coefficients_eq_zero_iff hexact htotal hcap, o.flat_iff]
  · have hall := eq_empty_of_mem_standardSteps γ inner hexp hsignal hown htarget
    refine ⟨hall, fun start hinitial hcandidates hroom => ?_⟩
    have hstart : config.validate *> config.initialMixture o.dims = .ok start := by
      rw [hvalid]
      exact hinitial
    -- behind the start all mixtures are empty, so their pools are smaller than
    -- the first one
    have hlength := length_standardSteps (γ := γ) inner hstart hcandidates fun x hx =>
      hroom.mono (Nat.add_le_add_right (size_le_of_forall_empty hall hx) _)
    refine ⟨hlength, fun σ observe seen => ?_⟩
    obtain ⟨stream, result, -, -, hfit, hresult, -⟩ := adaptiveFit_steps hstart
      (fun _ => activeSet inner config.solverCap) (RandomSource.seeded α config.seed : γ)
    obtain ⟨capped, hrun⟩ := hfit observe seen
    rw [standardFit, hrun]
    refine (hresult _).mpr ⟨hlength, ?_⟩
    -- there is a last step, and it leaves nothing
    have hne : standardSteps γ inner o config ≠ [] :=
      List.ne_nil_of_length_pos (hlength ▸ hsteps)
    show (start :: (standardSteps γ inner o config).map Snapshot.mixture).getLast? = _
    rw [List.getLast?_cons, List.getLast?_map, List.getLast?_eq_some_getLast hne,
      Option.map_some, Option.getD_some, hall _ (List.getLast_mem hne)]

end Steps

/-- Two audiences, of which only the first has been reached. -/
def opposedObservations : Observations ℚ :=
  ⟨2, 1, #v[#v[3], #v[4]], #v[1, -1], Nat.two_pos, Nat.one_pos⟩

/-- The same audiences, neither of which has been reached. -/
def shunnedObservations : Observations ℚ :=
  { opposedObservations with target := #v[-1, 0] }

/-- Two steps with one candidate each. -/
def sparseSearch : FitConfig ℚ :=
  { newCenters := 1, sigma := 1, maxSteps := 2, initialLocations := none, seed := 0,
    solverCap := 1 }

/-- All weight at one location. -/
def soleMixture : Mixture ℚ 1 := ⟨[⟨1, #v[2]⟩], by decide⟩

theorem opposedObservations_solved :
    ratSolve.Exact (opposedObservations.design [#v[2]]) ∧
    ratSolve.Total (opposedObservations.design [#v[2]]) := by
  have hexact : ∀ idx ∈ (List.finRange 1).sublists,
      ∀ z ∈ ratSolve.trial (opposedObservations.design [#v[2]])
        (opposedObservations.design [#v[2]]).normal idx,
        (opposedObservations.design [#v[2]]).normal.SolvedOn idx z := by decide +kernel
  have htotal : ∀ idx ∈ (List.finRange 1).sublists,
      (ratSolve.trial (opposedObservations.design [#v[2]])
          (opposedObservations.design [#v[2]]).normal idx).isSome =
        true := by decide +kernel
  exact ⟨fun idx z hidx hz => hexact idx (List.mem_sublists.mpr hidx) z hz,
    fun idx hidx => Option.isSome_iff_exists.mp (htotal idx (List.mem_sublists.mpr hidx))⟩

/-- The first trial gives `skewDesign` a coefficient. A location that reaches
the wrong audience more than the right one gets none, although the target has a
positive entry; and if no audience is to be reached, both steps leave nothing. -/
theorem vanishes_iff_opposed :
    ((activeSet ratSolve 1).solve skewDesign).coefficients ≠ [0, 0] ∧
    (∃ row, 0 < opposedObservations.target.get row) ∧
    (∃ s, ∃ g : Playback ℚ, Fit.step opposedObservations sparseSearch
      (activeSet ratSolve 1) 0 soleMixture ⟨[0, -3]⟩ =
        .ok (s, g) ∧ s.mixture = .empty 1) ∧
    (standardSteps (Playback ℚ) ratSolve shunnedObservations sparseSearch).length = 2 ∧
    ∀ s ∈ standardSteps (Playback ℚ) ratSolve shunnedObservations sparseSearch,
      s.mixture = .empty 1 := by
  obtain ⟨hanswers, hfits⟩ := vanishes_iff ratSolve
  have hvalid : sparseSearch.validate = .ok () := rfl
  have hsteep : ¬ ∀ j, Vec.dot (skewDesign.columns.get j) skewDesign.target ≤
      skewDesign.tolerance := by decide +kernel
  have hflat : ∀ l ∈ [#v[2]],
      Vec.dot (reachRow opposedObservations.signal l) opposedObservations.target ≤
      (opposedObservations.design [#v[2]]).tolerance := by decide +kernel
  obtain ⟨hsteps, -⟩ := hfits (Playback ℚ) opposedObservations sparseSearch hvalid
  obtain ⟨-, hshunned⟩ := hfits (Playback ℚ) shunnedObservations sparseSearch hvalid
  have hrejected : (sampleCandidates soleMixture.components sparseSearch.newCenters
      sparseSearch.sigma (⟨[0, -3]⟩ : Playback ℚ)).toOption.any (fun r => r.1.isEmpty) =
      true := by decide +kernel
  obtain ⟨⟨candidates, g⟩, hsample, hnone⟩ := exists_ok_of_any hrejected
  obtain rfl : candidates = [] := List.isEmpty_iff.mp hnone
  obtain ⟨hcompletes, hvanishes⟩ :=
    hsteps 0 soleMixture ⟨[0, -3]⟩ g [] [#v[2]] hsample rfl
  obtain ⟨s, hstep⟩ := hcompletes.mpr ⟨by decide, by decide, by decide⟩
  have hempty := hvanishes opposedObservations_solved.1
    opposedObservations_solved.2 s hstep
  obtain ⟨hall, hend⟩ := hshunned (fun v hv => hv) (by decide +kernel)
    (by rintro t ⟨⟩) (by decide +kernel)
  have hok : (sparseSearch.initialMixture 1).toOption.any (fun _ => true) =
      true := by decide +kernel
  obtain ⟨start, hstart, -⟩ := exists_ok_of_any hok
  have hroom : shunnedObservations.HasRoom (activeSet ratSolve 1)
      (start.size + sparseSearch.newCenters) := by
    rw [FitConfig.size_initialMixture rfl hstart]
    exact ⟨by decide, by decide, by decide⟩
  refine ⟨fun hzero => hsteep
    ((hanswers skewDesign 1 le_rfl ratSolve_exact ratSolve_total).mp hzero),
    by decide +kernel, ⟨s, g, hstep, hempty.mpr hflat⟩,
    (hend start hstart (by decide) hroom).1, hall⟩

end ReachMixture
