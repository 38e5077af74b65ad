import ReachMixture.Proofs.Fit.Outcome

/-!
# Budgets and observers

A fit does not know how many steps are left, and it does not look at its
observer. So a fit with a larger budget of steps begins with the fit that has
the smaller one, and all observers see the same steps.

- `FitOutcome.andThen`, `Fit.run_add`: a run of `a + b` steps is a run of `a`
  steps, followed by one of `b` steps.
- `FitConfig.withSteps`: settings that differ in the steps to take.
  `adaptiveFit_add` says how their fits compare.
- `map_step_completedSteps`, `completedSteps_of_result`: the numbers of the
  completed steps, and what the last one leaves.
- `adaptiveFit_budget`: what is reported to an observer, and what of it depends
  on the budget.
-/

namespace ReachMixture

variable {α γ σ : Type} {m : Nat}

section Outcomes

variable [Zero α] [LT α] [Scalar α]

/-- `r.andThen next` goes on with `next` from the mixture, the stream and the
observer's state of `r`. A fault is final. -/
def FitOutcome.andThen (r : FitOutcome α γ σ m)
    (next : Mixture α m → γ → σ → Nat → FitOutcome α γ σ m) :
    FitOutcome α γ σ m :=
  match r.result with
  | .error _ => r
  | .ok y => next y r.stream r.observed r.cappedSteps

theorem FitOutcome.andThen_error {r : FitOutcome α γ σ m}
    {fault : Fault α} (h : r.result = .error fault)
    (next : Mixture α m → γ → σ → Nat → FitOutcome α γ σ m) : r.andThen next = r := by
  rw [andThen, h]

theorem FitOutcome.andThen_ok {r : FitOutcome α γ σ m} {y : Mixture α m}
    (h : r.result = .ok y) (next : Mixture α m → γ → σ → Nat → FitOutcome α γ σ m) :
    r.andThen next = next y r.stream r.observed r.cappedSteps := by
  rw [andThen, h]

end Outcomes

/-- `config` with another `maxSteps`. -/
def FitConfig.withSteps (config : FitConfig α) (steps : Nat) : FitConfig α :=
  { config with maxSteps := steps }

/-- `validate` asks of `maxSteps` only that it is not zero. -/
theorem FitConfig.validate_withSteps [Zero α] [LT α] [DecidableLT α] [Scalar α]
    (config : FitConfig α) {a b : Nat} (ha : 1 ≤ a) (hb : 1 ≤ b) :
    (config.withSteps a).validate = (config.withSteps b).validate := by
  have ha' : (config.withSteps a).maxSteps ≠ 0 := Nat.one_le_iff_ne_zero.mp ha
  have hb' : (config.withSteps b).maxSteps ≠ 0 := Nat.one_le_iff_ne_zero.mp hb
  rw [validate, validate, if_neg ha', if_neg hb']
  rfl

section Fit

variable [Zero α] [Add α] [Mul α] [Neg α] [LT α] [LE α] [DecidableLT α]
  [DecidableLE α] [Scalar α]
variable [RandomSource γ α]

namespace Fit

variable {o : Observations α} {config : FitConfig α}
  {solver : Nat → LeastSquares.Solver α}

/-- `run` reads `newCenters` and `sigma` of the settings, and no other field. -/
theorem run_congr {config' : FitConfig α}
    (hcenters : config'.newCenters = config.newCenters)
    (hsigma : config'.sigma = config.sigma) (observe : σ → Snapshot α o.dims → σ)
    (remaining i : Nat) (x : Mixture α o.dims) (g : γ) (seen : σ) (capped : Nat) :
    run o config' solver observe remaining i x g seen capped =
      run o config solver observe remaining i x g seen capped := by
  have hstep : ∀ i x (g : γ), step o config' (solver i) i x g =
      step o config (solver i) i x g := by
    intro i x g
    rw [step, step, hcenters, hsigma]
  induction remaining generalizing i x g seen capped with
  | zero => rfl
  | succ remaining ih =>
    rw [run, run, hstep]
    cases step o config (solver i) i x g with
    | error fault => rfl
    | ok next => exact ih _ _ _ _ _

/-- In particular `run` does not read `maxSteps`. -/
theorem run_withSteps (steps : Nat) (observe : σ → Snapshot α o.dims → σ)
    (remaining i : Nat) (x : Mixture α o.dims) (g : γ) (seen : σ) (capped : Nat) :
    run o (config.withSteps steps) solver observe remaining i x g seen capped =
      run o config solver observe remaining i x g seen capped := by
  refine run_congr ?_ ?_ observe remaining i x g seen capped
  · rfl
  · rfl

/-- **A run goes on where a shorter one ends.** By induction on the number `a`
of steps of the shorter one. -/
theorem run_add (observe : σ → Snapshot α o.dims → σ) (a b i : Nat)
    (x : Mixture α o.dims) (g : γ) (seen : σ) (capped : Nat) :
    run o config solver observe (a + b) i x g seen capped =
      (run o config solver observe a i x g seen capped).andThen
        (run o config solver observe b (i + a)) := by
  induction a generalizing i x g seen capped with
  | zero =>
    rw [Nat.zero_add]
    rfl
  | succ a ih =>
    rw [Nat.succ_add_eq_add_succ, Nat.add_succ, run, run]
    cases step o config (solver i) i x g with
    | error fault => rfl
    | ok next =>
      rw [show i + (a + 1) = i + 1 + a by omega]
      exact ih _ _ _ _ _

/-- The snapshots of a `Trace` from step `i` on are numbered `i`, `i + 1` and so
on. -/
theorem Trace.map_step {i : Nat} {x y : Mixture α o.dims} {g g' : γ}
    {l : List (Snapshot α o.dims)} (h : Trace o config solver i x g l y g') :
    l.map Snapshot.step = List.range' i l.length := by
  induction h with
  | nil => rfl
  | cons hstep hrest ih =>
    obtain ⟨candidates, next, -, -, -, rfl⟩ := step_eq_ok_iff.mp hstep
    rw [List.map_cons, ih, List.length_cons, List.range'_succ]

end Fit

variable [One α] [Div α] [NatCast α]
variable (o : Observations α) (config : FitConfig α)
  (solver : Nat → LeastSquares.Solver α) (g : γ)

/-- `run_add` for fits: with a budget of `a + b` steps, the last `b` of them are
behind a fit with a budget of `a`. -/
theorem adaptiveFit_add {a : Nat} (ha : 1 ≤ a) (b : Nat)
    (observe : σ → Snapshot α o.dims → σ) (seen : σ) :
    adaptiveFit o (config.withSteps (a + b)) solver g observe seen =
      (adaptiveFit o (config.withSteps a) solver g observe seen).andThen
        (Fit.run o config solver observe b a) := by
  have hvalid := config.validate_withSteps ha (b := a + b) (by omega)
  have hinitial : (config.withSteps (a + b)).initialMixture o.dims =
      (config.withSteps a).initialMixture o.dims := rfl
  rw [adaptiveFit, adaptiveFit, ← hvalid, hinitial]
  cases (config.withSteps a).validate *> (config.withSteps a).initialMixture o.dims with
  | error fault => rfl
  | ok start =>
    show Fit.run o (config.withSteps (a + b)) solver observe (a + b) 0 start g seen 0 =
      (Fit.run o (config.withSteps a) solver observe a 0 start g seen 0).andThen _
    rw [Fit.run_withSteps, Fit.run_withSteps, Fit.run_add, Nat.zero_add]

variable {o config solver g}

/-- Every observer sees `completedSteps`, and the result and the stream are the
same for all of them. -/
theorem adaptiveFit_observed (o : Observations α) (config : FitConfig α)
    (solver : Nat → LeastSquares.Solver α) (g : γ) :
    ∃ (result : Except (Fault α) (Mixture α o.dims)) (g' : γ),
      ∀ {σ : Type} (observe : σ → Snapshot α o.dims → σ) (seen : σ), ∃ capped,
        adaptiveFit o config solver g observe seen =
          ⟨result, (completedSteps o config solver g).foldl observe seen,
            g', capped⟩ := by
  cases hstart : config.validate *> config.initialMixture o.dims with
  | error fault =>
    have hnone : completedSteps o config solver g = [] := by
      rw [completedSteps, adaptiveFit_refused hstart]
    refine ⟨.error fault, g, fun observe seen => ⟨0, ?_⟩⟩
    rw [hnone, adaptiveFit_refused hstart]
    rfl
  | ok start =>
    obtain ⟨y, g', result, -, -, hfit⟩ := adaptiveFit_outcome hstart solver g
    exact ⟨result, g', hfit⟩

/-- A fit with a result has taken `maxSteps` steps, and ends with the mixture of
the last one. -/
theorem completedSteps_of_result {observe : σ → Snapshot α o.dims → σ}
    {seen : σ} {y : Mixture α o.dims}
    (h : (adaptiveFit o config solver g observe seen).result = .ok y) :
    (completedSteps o config solver g).length = config.maxSteps ∧
      ∃ s, (completedSteps o config solver g).getLast? = some s ∧ s.mixture = y := by
  cases hstart : config.validate *> config.initialMixture o.dims with
  | error fault =>
    rw [adaptiveFit_refused hstart] at h
    cases h
  | ok start =>
    obtain ⟨stream, result, -, -, hfit, hresult, -⟩ := adaptiveFit_steps hstart solver g
    obtain ⟨capped, heq⟩ := hfit observe seen
    rw [heq] at h
    obtain ⟨hlength, hlast⟩ := (hresult y).mp h
    -- the last mixture is not the start, since a step has been taken
    have hpos := (FitConfig.validate_eq_ok (FitConfig.of_accepted hstart).1).2.2.1
    rw [← hlength] at hpos
    obtain ⟨first, rest, hsteps⟩ := List.exists_cons_of_length_pos hpos
    rw [hsteps, List.map_cons, List.getLast?_cons_cons, ← List.map_cons, ← hsteps,
      List.getLast?_map, Option.map_eq_some_iff] at hlast
    exact ⟨hlength, hlast⟩

theorem length_completedSteps_le (o : Observations α)
    (config : FitConfig α) (solver : Nat → LeastSquares.Solver α) (g : γ) :
    (completedSteps o config solver g).length ≤ config.maxSteps := by
  cases hstart : config.validate *> config.initialMixture o.dims with
  | error fault =>
    rw [completedSteps, adaptiveFit_refused hstart]
    exact Nat.zero_le _
  | ok start =>
    obtain ⟨-, -, -, hcount, -⟩ := adaptiveFit_steps hstart solver g
    exact hcount

/-- `completedSteps` are numbered from zero on. -/
theorem map_step_completedSteps (o : Observations α) (config : FitConfig α)
    (solver : Nat → LeastSquares.Solver α) (g : γ) :
    (completedSteps o config solver g).map Snapshot.step =
      List.range (completedSteps o config solver g).length := by
  cases hstart : config.validate *> config.initialMixture o.dims with
  | error fault =>
    rw [completedSteps, adaptiveFit_refused hstart]
    rfl
  | ok start =>
    obtain ⟨_, _, _, htrace, -⟩ := adaptiveFit_outcome hstart solver g
    rw [htrace.map_step, List.range_eq_range']

/-- A completed step `s` stands at the position `s.step`. -/
theorem getElem?_completedSteps {s : Snapshot α o.dims}
    (hs : s ∈ completedSteps o config solver g) :
    (completedSteps o config solver g)[s.step]? = some s := by
  obtain ⟨i, hi, rfl⟩ := List.getElem_of_mem hs
  have hnumber := congrArg (·[i]?) (map_step_completedSteps o config solver g)
  rw [List.getElem?_map, List.getElem?_range hi, List.getElem?_eq_getElem hi] at hnumber
  rw [Option.some.inj hnumber, List.getElem?_eq_getElem hi]

/-- The `completedSteps` with a budget of `a` are the first `a` of those with a
larger budget. -/
theorem completedSteps_take {a : Nat} (ha : 1 ≤ a) (b : Nat) :
    completedSteps o (config.withSteps a) solver g =
      (completedSteps o (config.withSteps (a + b)) solver g).take a := by
  have hle : (completedSteps o (config.withSteps a) solver g).length ≤ a :=
    length_completedSteps_le ..
  have hlength : ∀ {y}, (adaptiveFit o (config.withSteps a) solver g
      (fun seen s => seen ++ [s]) []).result = .ok y →
      (completedSteps o (config.withSteps a) solver g).length = a :=
    fun h => (completedSteps_of_result h).1
  unfold completedSteps at hle hlength ⊢
  rw [adaptiveFit_add o config solver g ha b]
  generalize adaptiveFit o (config.withSteps a) solver g
    (fun seen s => seen ++ [s]) [] = r at *
  cases hresult : r.result with
  | error fault => rw [FitOutcome.andThen_error hresult, List.take_of_length_le hle]
  | ok y =>
    -- the larger budget puts further steps behind as many as the smaller one
    -- allows
    obtain ⟨l, _, _, _, -, -, hrun⟩ := Fit.run_outcome o config solver b a y r.stream
    obtain ⟨_, heq⟩ := hrun (fun seen s => seen ++ [s]) r.observed r.cappedSteps
    rw [FitOutcome.andThen_ok hresult, heq, foldl_append_singleton]
    exact (List.take_left' (hlength hresult)).symm

/-- **Budgets and observers.** If a fit succeeds with a budget of `T'` steps, it
does with any smaller one `T`. If it succeeds with `T`, it reports just the
steps from `0` to `T - 1`, in order: each with the mixture that `prune` leaves
of its pool, and the last one with the mixture that is returned. What is
reported with `T` are the first `T` steps of what is reported with `T'`. Neither
the result nor the stream depends on `observe`; with an observer that never
looks, nobody observes the fit. -/
theorem adaptiveFit_budget (o : Observations α) (config : FitConfig α)
    (solver : Nat → LeastSquares.Solver α) (g : γ) (observe : σ → Snapshot α o.dims → σ)
    (seen : σ) {T T' : Nat} (hT : 1 ≤ T) (hle : T ≤ T') :
    ((∃ y', (adaptiveFit o (config.withSteps T') solver g observe seen).result = .ok y') →
      ∃ y, (adaptiveFit o (config.withSteps T) solver g observe seen).result = .ok y) ∧
    (adaptiveFit o (config.withSteps T) solver g observe seen).observed =
      (completedSteps o (config.withSteps T) solver g).foldl observe seen ∧
    (∀ y, (adaptiveFit o (config.withSteps T) solver g observe seen).result = .ok y →
      ∃ (steps : List (Snapshot α o.dims)) (start : Mixture α o.dims) (stream : Nat → γ),
        steps = completedSteps o (config.withSteps T) solver g ∧
        steps.map Snapshot.step = List.range T ∧
        (steps.map Snapshot.mixture).getLast? = some y ∧
        config.initialMixture o.dims = .ok start ∧ stream 0 = g ∧
        ∀ i s, steps[i]? = some s → ∃ before candidates,
          (start :: steps.map Snapshot.mixture)[i]? = some before ∧
          sampleCandidates before.components config.newCenters config.sigma (stream i) =
            .ok (candidates, stream (i + 1)) ∧
          prune (before.locations ++ candidates)
            ((solver i).solve
              (o.design (before.locations ++ candidates))).coefficients = .ok s.mixture) ∧
    completedSteps o (config.withSteps T) solver g =
      (completedSteps o (config.withSteps T') solver g).take T ∧
    ∀ {τ : Type} (observe' : τ → Snapshot α o.dims → τ) (seen' : τ),
      (adaptiveFit o (config.withSteps T) solver g observe' seen').result =
        (adaptiveFit o (config.withSteps T) solver g observe seen).result ∧
      (adaptiveFit o (config.withSteps T) solver g observe' seen').stream =
        (adaptiveFit o (config.withSteps T) solver g observe seen).stream := by
  obtain ⟨b, rfl⟩ := Nat.exists_eq_add_of_le hle
  obtain ⟨result, g', hfit⟩ := adaptiveFit_observed o (config.withSteps T) solver g
  obtain ⟨capped, hrun⟩ := hfit observe seen
  refine ⟨?_, congrArg FitOutcome.observed hrun, ?_, completedSteps_take hT b, ?_⟩
  -- a fault within the smaller budget is the result of the larger one too
  · rintro ⟨y', hy'⟩
    rw [adaptiveFit_add o config solver g hT b] at hy'
    cases hresult : (adaptiveFit o (config.withSteps T) solver g observe seen).result with
    | error fault =>
      rw [FitOutcome.andThen_error hresult, hresult] at hy'
      cases hy'
    | ok y => exact ⟨y, rfl⟩
  · intro y hy
    obtain ⟨hlength, s, hs, rfl⟩ := completedSteps_of_result hy
    cases hstart : (config.withSteps T).validate *>
      (config.withSteps T).initialMixture o.dims with
    | error fault =>
      rw [adaptiveFit_refused hstart] at hy
      cases hy
    | ok start =>
      obtain ⟨_, _, _, htrace, -⟩ := adaptiveFit_outcome hstart solver g
      obtain ⟨stream, hfirst, hsteps⟩ := htrace.step_get
      refine ⟨_, start, stream, rfl, ?_, ?_, (FitConfig.of_accepted hstart).2,
        hfirst, fun i s hi => ?_⟩
      · rw [map_step_completedSteps, hlength]
        rfl
      · rw [List.getLast?_map, hs]
        rfl
      · obtain ⟨before, hbefore, hstep⟩ := hsteps i s hi
        rw [Nat.zero_add] at hstep
        obtain ⟨candidates, hsample, hprune⟩ := Fit.step_eq_ok hstep
        exact ⟨before, candidates, hbefore, hsample, hprune⟩
  · intro τ observe' seen'
    obtain ⟨capped', hrun'⟩ := hfit observe' seen'
    rw [hrun, hrun']
    exact ⟨rfl, rfl⟩

end Fit

/-- Of the two steps of `shortSearch` the first is all that a budget of one step
allows. -/
theorem adaptiveFit_budget_short :
    (completedSteps singleObservations (shortSearch.withSteps 2)
      (fun _ => stubbornSolver) shortDraws).length = 2 ∧
    completedSteps singleObservations (shortSearch.withSteps 1)
        (fun _ => stubbornSolver) shortDraws =
      (completedSteps singleObservations (shortSearch.withSteps 2)
        (fun _ => stubbornSolver) shortDraws).take 1 ∧
    ∃ y, (adaptiveFit singleObservations (shortSearch.withSteps 1) (fun _ =>
        stubbornSolver) shortDraws (fun seen s => seen ++ [s.step]) []).result = .ok y ∧
      (adaptiveFit singleObservations (shortSearch.withSteps 1)
        (fun _ => stubbornSolver) shortDraws (fun seen s => seen ++ [s.step])
        []).observed = [0] := by
  have hlength :
      (completedSteps singleObservations (shortSearch.withSteps 2)
        (fun _ => stubbornSolver) shortDraws).length = 2 := by
    decide +kernel
  have hok : (adaptiveFit singleObservations (shortSearch.withSteps 2)
      (fun _ => stubbornSolver) shortDraws (fun seen s => seen ++ [s.step])
      []).result.toOption.any (fun _ => true) = true := by
    decide +kernel
  obtain ⟨y', hy', -⟩ := exists_ok_of_any hok
  obtain ⟨hshorter, hobserved, hreported, htake, -⟩ :=
    adaptiveFit_budget singleObservations shortSearch (fun _ => stubbornSolver)
      shortDraws (fun seen s => seen ++ [s.step]) [] (le_refl 1) (show 1 ≤ 2 by decide)
  obtain ⟨y, hy⟩ := hshorter ⟨y', hy'⟩
  obtain ⟨steps, -, -, rfl, hnumbers, -⟩ := hreported y hy
  refine ⟨hlength, htake, y, hy, ?_⟩
  rw [hobserved, List.foldl_append_eq_append, List.nil_append, ← List.flatMap_def,
    ← List.map_eq_flatMap, hnumbers]
  rfl

end ReachMixture
