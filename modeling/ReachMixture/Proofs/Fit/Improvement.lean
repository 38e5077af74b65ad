import ReachMixture.Proofs.Fit.Prediction

/-!
# Fits improve step by step

A step may go on with the weights it begins with: padded with zeros they are
coefficients for its pool. A solver that finds nothing worse than that does not
let the squared distance from the observed reach grow.

- `LeastSquares.Design.NearOptimal`: what the solver has to promise, up to a
  slack.
- `Fit.SolvesWithin`: it keeps the promise for the problem of one step. The step
  then completes if its pool has room (`Fit.SolvesWithin.exists_step`), and a
  step that completes improves its mixture (`Fit.SolvesWithin.cost_le`).
- `adaptiveFit_cost_le`: the same for the steps of a fit, and for all of them
  together if there is no slack.
-/

namespace ReachMixture

variable {α γ : Type}

section Exact

variable [Field α] [LinearOrder α]

/-- Nonnegative coefficients `x` with `‖A x - b‖² ≤ ‖A y - b‖² + eps * ∑ j, y j`
for all nonnegative `y`. -/
def LeastSquares.Design.NearOptimal {n k : Nat} (d : LeastSquares.Design α n k)
    (eps : α) (coefficients : List α) :
    Prop :=
  ∃ x : Vector α k, coefficients = x.toList ∧ (∀ j, 0 ≤ x.get j) ∧
    ∀ y : Vector α k, (∀ j, 0 ≤ y.get j) → d.cost x ≤ d.cost y + eps * ∑ j, y.get j

variable [Scalar α] [ExactScalar α] [RandomSource γ α]

namespace Fit

variable {o : Observations α} {config : FitConfig α}

variable (o config) in
/-- For the pool of a step that begins with `x` and `g`, the solver's
coefficients are `NearOptimal` within `eps`. -/
def SolvesWithin (solver : LeastSquares.Solver α) (x : Mixture α o.dims)
    (g : γ) (eps : α) : Prop :=
  ∃ candidates g', sampleCandidates x.components config.newCenters config.sigma g =
      .ok (candidates, g') ∧
    (o.design (x.locations ++ candidates)).NearOptimal eps
      (solver.solve (o.design (x.locations ++ candidates))).coefficients

/-- **A step completes** if `SolvesWithin` holds of it and its pool has room. -/
theorem SolvesWithin.exists_step {solver : LeastSquares.Solver α} {x : Mixture α o.dims}
    {g : γ} {eps : α} (h : SolvesWithin o config solver x g eps)
    (hroom : ¬ Cramped o config solver x g) (i : Nat) : ∃ s g',
    Fit.step o config solver i x g = .ok (s, g') := by
  obtain ⟨candidates, g', hsample, z, hz, -⟩ := h
  obtain ⟨y, hprune⟩ := o.exists_prune (x.locations ++ candidates) z
  have hpool : o.HasRoom solver (x.locations ++ candidates).length :=
    not_not.mp fun hno => hroom ⟨candidates, g', hsample, hno⟩
  rw [← hz] at hprune
  exact ⟨⟨i, y, _, _, _⟩, g',
    Fit.step_eq_ok_iff.mpr ⟨candidates, y, hsample, hpool, hprune, rfl⟩⟩

/-- **A step improves its mixture**, up to the slack of the solver: the weights
of `x`, `padded` with zeros for the candidates, are among those that the
solver's coefficients are compared with. -/
theorem SolvesWithin.cost_le {solver : LeastSquares.Solver α} {x : Mixture α o.dims}
    {g g' : γ} {eps : α} (h : SolvesWithin o config solver x g eps) {i : Nat}
    {s : Snapshot α o.dims} (hstep : Fit.step o config solver i x g = .ok (s, g')) :
    o.cost s.mixture ≤ o.cost x + eps * x.weights.sum := by
  obtain ⟨candidates, g₁, hsample, z, hz, hnonneg, hbest⟩ := h
  obtain ⟨candidates', hsample', hprune⟩ := Fit.step_eq_ok hstep
  cases hsample.symm.trans hsample'
  rw [hz] at hprune
  -- the coefficients compete with the old weights, which are feasible for the
  -- larger pool
  calc o.cost s.mixture = (o.design (x.locations ++ candidates)).cost z :=
        o.cost_eq_design_cost (o.predict_of_prune hnonneg hprune)
    _ ≤ (o.design (x.locations ++ candidates)).cost (x.padded candidates) +
          eps * ∑ j, (x.padded candidates).get j := hbest _ (x.padded_nonneg candidates)
    _ = o.cost x + eps * x.weights.sum := by
        rw [x.sum_padded, o.cost_eq_design_cost (x.predict_padded candidates).symm]

end Fit

/-- **The error of a fit does not grow.** Let the coefficients that the solver
finds in a step be optimal within `eps` (`SolvesWithin`). The step completes,
unless it is `Cramped`, and the `cost` of its mixture is at most that of the
mixture before it, plus `eps` times the total weight of the latter. So the cost
never grows if the solver is exact in every step. -/
theorem adaptiveFit_cost_le (o : Observations α)
    (config : FitConfig α) (start : Mixture α o.dims)
    (hstart : config.validate *> config.initialMixture o.dims = .ok start)
    (solver : Nat → LeastSquares.Solver α) (g : γ) :
    ∃ (steps : List (Snapshot α o.dims)) (mixtures : List (Mixture α o.dims))
      (stream : Nat → γ),
      steps = completedSteps o config solver g ∧
      mixtures = start :: steps.map Snapshot.mixture ∧ stream 0 = g ∧
      (∀ i s x, steps[i]? = some s → mixtures[i]? = some x →
        Fit.step o config (solver i) i x (stream i) = .ok (s, stream (i + 1))) ∧
      (∀ i x eps, mixtures[i]? = some x → i < config.maxSteps →
        Fit.SolvesWithin o config (solver i) x (stream i) eps →
        (¬ Fit.Cramped o config (solver i) x (stream i) →
          ∃ y, mixtures[i + 1]? = some y) ∧
        ∀ y, mixtures[i + 1]? = some y → o.cost y ≤ o.cost x + eps * x.weights.sum) ∧
      ((∀ i x, mixtures[i]? = some x → i < steps.length →
        Fit.SolvesWithin o config (solver i) x (stream i) 0) →
          (mixtures.map o.cost).Pairwise (· ≥ ·)) := by
  obtain ⟨stream, result, hfirst, hcount, -, -, hsteps⟩ :=
    adaptiveFit_steps hstart solver g
  generalize completedSteps o config solver g = steps at *
  have hbound : ∀ {i s}, steps[i]? = some s → i < config.maxSteps :=
    fun hs => (List.getElem?_eq_some_iff.mp hs).1.trans_le hcount
  have hcost : ∀ i x eps y, (start :: steps.map Snapshot.mixture)[i]? = some x →
      i < config.maxSteps → Fit.SolvesWithin o config (solver i) x (stream i) eps →
      (start :: steps.map Snapshot.mixture)[i + 1]? = some y →
      o.cost y ≤ o.cost x + eps * x.weights.sum := by
    intro i x eps y hx hi hsolves hy
    rw [List.getElem?_cons_succ, List.getElem?_map, Option.map_eq_some_iff] at hy
    obtain ⟨s, hs, rfl⟩ := hy
    exact hsolves.cost_le (((hsteps i x hx hi).1 s _).mpr ⟨hs, rfl⟩)
  refine ⟨steps, _, stream, rfl, rfl, hfirst, fun i s x hs hx => ?_,
    fun i x eps hx hi hsolves =>
      ⟨fun hroom => ?_, fun y => hcost i x eps y hx hi hsolves⟩, fun hsolves => ?_⟩
  · exact ((hsteps i x hx (hbound hs)).1 s _).mpr ⟨hs, rfl⟩
  · obtain ⟨s, g', hok⟩ := hsolves.exists_step hroom i
    refine ⟨s.mixture, ?_⟩
    rw [List.getElem?_cons_succ, List.getElem?_map,
      (((hsteps i x hx hi).1 s g').mp hok).1]
    rfl
  · -- errors of neighbours are compared by the step between them
    rw [← List.isChain_iff_pairwise, List.isChain_iff_getElem]
    intro i hi
    rw [List.length_map, List.length_cons, List.length_map, Nat.succ_lt_succ_iff] at hi
    have hx := List.getElem?_eq_getElem (l := start :: steps.map Snapshot.mixture)
      (i := i) (by simp; omega)
    have hy := List.getElem?_eq_getElem (l := start :: steps.map Snapshot.mixture)
      (i := i + 1) (by simp; omega)
    have hle := hcost i _ 0 _ hx (hi.trans_le hcount) (hsolves i _ hx hi) hy
    rw [zero_mul, add_zero] at hle
    simpa only [List.getElem_map] using hle

end Exact

/-- One audience with one identifier, half of which is reached. -/
def halfReached : Observations ℚ := ⟨1, 1, #v[#v[1]], #v[1 / 2], Nat.one_pos, Nat.one_pos⟩

/-- A single step with two candidates. -/
def singleStep : FitConfig ℚ :=
  { newCenters := 2, sigma := 1, maxSteps := 1, initialLocations := none, seed := 0,
    solverCap := 1 }

/-- The vector `(1 / 2, 0, …, 0)`. -/
def halfFirst (k : Nat) : Vector ℚ k :=
  Vector.ofFn fun j => if j.val = 0 then 1 / 2 else 0

/-- A solver that answers every design with `halfFirst`. -/
def halfSolver : LeastSquares.Solver ℚ where
  solve {_ k} _ :=
    { coefficients := (halfFirst k).toList, residual := 0, iterations := 0,
      converged := true }

/-- The draws of `singleStep`. The second candidate falls below zero. -/
def singleDraws : Playback ℚ := ⟨[0, 1, 0, -3]⟩

/-- The start predicts twice the observed reach, and the one step corrects that. -/
theorem adaptiveFit_cost_le_half :
    ∃ start, singleStep.validate *>
        singleStep.initialMixture halfReached.dims = .ok start ∧
      Fit.SolvesWithin halfReached singleStep halfSolver start singleDraws 0 ∧
      halfReached.cost start = 1 / 4 ∧
      (completedSteps halfReached singleStep (fun _ => halfSolver) singleDraws).map
        (fun s => halfReached.cost s.mixture) = [0] ∧
      ((start :: (completedSteps halfReached singleStep (fun _ => halfSolver)
        singleDraws).map Snapshot.mixture).map halfReached.cost).Pairwise (· ≥ ·) := by
  have hok : (singleStep.validate *>
      singleStep.initialMixture halfReached.dims).toOption.any (fun x =>
      decide (halfReached.cost x = 1 / 4) &&
        (sampleCandidates x.components singleStep.newCenters singleStep.sigma
          singleDraws).toOption.any fun drawn =>
          decide ((halfReached.design (x.locations ++ drawn.1)).cost (halfFirst _) =
            0)) = true := by
    decide +kernel
  obtain ⟨start, hstart, hchecks⟩ := exists_ok_of_any hok
  rw [Bool.and_eq_true, decide_eq_true_iff] at hchecks
  obtain ⟨⟨candidates, g'⟩, hsample, hexact⟩ := exists_ok_of_any hchecks.2
  have hsolves : Fit.SolvesWithin halfReached singleStep halfSolver
      start singleDraws 0 := by
    refine ⟨candidates, g', hsample, halfFirst _, rfl, fun j => ?_, fun y _ => ?_⟩
    · rw [halfFirst, Vector.get_ofFn]
      split
      · norm_num
      · exact le_rfl
    · rw [of_decide_eq_true hexact, zero_mul, add_zero, LeastSquares.Design.cost_eq]
      exact Finset.sum_nonneg fun row _ => sq_nonneg _
  have hsteps : (completedSteps halfReached singleStep (fun _ => halfSolver)
      singleDraws).map (fun s => halfReached.cost s.mixture) = [0] := by
    decide +kernel
  obtain ⟨_, _, stream, rfl, rfl, hfirst, -, -, hall⟩ :=
    adaptiveFit_cost_le halfReached singleStep start hstart
      (fun _ => halfSolver) singleDraws
  refine ⟨start, hstart, hsolves, hchecks.1, hsteps, hall fun i x hx hi => ?_⟩
  have hlength : (completedSteps halfReached singleStep (fun _ => halfSolver)
      singleDraws).length = 1 := by
    simpa using congrArg List.length hsteps
  obtain rfl : i = 0 := by omega
  cases hx
  rw [hfirst]
  exact hsolves

end ReachMixture
