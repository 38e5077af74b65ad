import ReachMixture.Proofs.Fit.Budget
import ReachMixture.Run.Pipeline

/-!
# What a run keeps of its fit

A run notes down the steps of its fit and measures the fitted mixture at the
end. Both ask for blocks. A step that completes has had the blocks of its whole
pool, which are no smaller, so neither is ever aborted: whatever becomes of a
run is decided by `Problem.generate` and by the result of `standardFit`.

- `measure_completedSteps`: the mixture of every completed step can be measured.
- `Observations.entry`, `Observations.record_eq`: what is recorded of a step
  that can be.
- `Notes.foldl_add`: the records of a whole fit.
- `runFit_of_generate`: **the result of a run** in terms of the result of its
  fit. `runFit_eq_ok_iff` and `runFit_eq_error_iff` say the same for results and
  for failures.
-/

namespace ReachMixture

variable {α γ σ : Type}

variable [Zero α] [One α] [Add α] [Sub α] [Mul α] [Div α] [Neg α] [LT α]
  [LE α] [DecidableLT α]
variable [DecidableLE α] [NatCast α] [Scalar α] [RandomSource γ α]

/-! ## Room for measurements -/

section Measure

variable {o : Observations α} {config : FitConfig α}

omit [One α] [Sub α] [Div α] [NatCast α] in
/-- A step keeps no more locations than its pool had, so their reach has room. -/
theorem Fit.reach_of_step {solver : LeastSquares.Solver α} {i : Nat}
    {x : Mixture α o.dims} {g g' : γ} {s : Snapshot α o.dims}
    (h : Fit.step o config solver i x g = .ok (s, g')) :
    s.mixture.size * o.rows < Capacity.entries := by
  obtain ⟨candidates, next, -, hroom, hprune, rfl⟩ := Fit.step_eq_ok_iff.mp h
  have hsize : next.size ≤ (x.locations ++ candidates).length := by
    rw [Mixture.size, ← List.length_map Component.location]
    exact (locations_sublist_of_prune hprune).length_le
  exact (Nat.mul_le_mul_right _ hsize).trans_lt hroom.reach

omit [Sub α] in
/-- The first pool has a location, so a fit that completes a step has room for
one number per audience. -/
theorem rows_lt_of_mem_completedSteps {solver : Nat → LeastSquares.Solver α} {g : γ}
    {s : Snapshot α o.dims} (h : s ∈ completedSteps o config solver g) :
    o.rows < Capacity.entries := by
  cases hstart : config.validate *> config.initialMixture o.dims with
  | error fault =>
    rw [completedSteps, adaptiveFit_refused hstart] at h
    cases h
  | ok start =>
    obtain ⟨y, g', result, htrace, -⟩ := adaptiveFit_outcome hstart solver g
    obtain ⟨first, rest, hcomponents⟩ :=
      FitConfig.initialMixture_eq_ok (FitConfig.of_accepted hstart).2
    -- there is a first step, and its pool has the start's locations
    cases hsteps : completedSteps o config solver g with
    | nil =>
      rw [hsteps] at h
      cases h
    | cons s' steps =>
      rw [hsteps] at htrace
      cases htrace with
      | cons hstep _ =>
        obtain ⟨candidates, _, -, hroom, -⟩ := Fit.step_eq_ok_iff.mp hstep
        have hpos : 0 < (start.locations ++ candidates).length := by
          rw [Mixture.locations, hcomponents]
          simp
        exact (Nat.le_mul_of_pos_left _ hpos).trans_lt hroom.reach

/-- **Every completed step can be measured**: `measure` never aborts on its
mixture. -/
theorem measure_completedSteps {solver : Nat → LeastSquares.Solver α} {g : γ}
    {s : Snapshot α o.dims} (h : s ∈ completedSteps o config solver g) :
    o.measure s.mixture.components = .ok (o.distance s.mixture.components) := by
  obtain ⟨i, x, g₁, g₂, hstep⟩ := exists_step_of_mem_completedSteps h
  exact Observations.measure_eq_ok_iff.mpr
    ⟨Fit.reach_of_step hstep, rows_lt_of_mem_completedSteps h, rfl⟩

end Measure

/-! ## Notes -/

section Notes

omit [One α] [Div α] [LE α] [DecidableLT α] [DecidableLE α] [NatCast α]

/-- What is recorded of `s`: its number, and the size, the total weight and the
distance of its mixture. -/
def Observations.entry (o : Observations α) (s : Snapshot α o.dims) : StepRecord α where
  step := s.step
  components := s.mixture.size
  weightSum := s.mixture.totalWeight
  residualNorm := o.distance s.mixture.components

variable {o : Observations α} (every : Nat)

omit [LT α] [Sub α] [Mul α] [Scalar α] in
/-- `recordStep` with a distance that can be measured records if `isDue`. -/
theorem recordStep_ok (step done : Nat) (weights : List α) (d : α) :
    recordStep every step done weights (Thunk.mk fun _ => .ok d) =
      .ok (if isDue every done then .recorded ⟨step, weights.length, weightSum weights, d⟩
           else .notDue) := by
  rw [recordStep]
  by_cases hdue : isDue every done = true
  · rw [if_pos hdue, if_pos hdue]
    rfl
  · rw [if_neg hdue, if_neg hdue]

theorem Observations.record_eq {s : Snapshot α o.dims}
    (h : o.measure s.mixture.components = .ok (o.distance s.mixture.components)) :
    o.record every s =
      .ok (if isDue every (s.step + 1) then .recorded (o.entry s) else .notDue) := by
  have hsize : s.mixture.weights.length = s.mixture.size := List.length_map _
  rw [record, h, recordStep_ok, hsize]
  rfl

/-- One note, by `Notes.add`: nothing is aborted, and the record is the latest. -/
theorem Notes.add_eq {notes : Notes α}
    (hnone : notes.fault = none) {s : Snapshot α o.dims}
    (h : o.measure s.mixture.components = .ok (o.distance s.mixture.components)) :
    (notes.add o every s).fault = none ∧ (notes.add o every s).records =
      (if isDue every (s.step + 1) then [o.entry s] else []) ++ notes.records := by
  rw [Notes.add, hnone, Observations.record_eq every h]
  by_cases hdue : isDue every (s.step + 1) = true
  · rw [if_pos hdue, if_pos hdue]
    exact ⟨rfl, rfl⟩
  · rw [if_neg hdue, if_neg hdue]
    exact ⟨rfl, rfl⟩

/-- **The notes of a fit.** Nothing is aborted, and the records are those of the
steps at which one is due, latest first. By induction on the steps. -/
theorem Notes.foldl_add {steps : List (Snapshot α o.dims)}
    (h : ∀ s ∈ steps, o.measure s.mixture.components = .ok
      (o.distance s.mixture.components)) (notes : Notes α) (hnone : notes.fault = none) :
    (steps.foldl (Notes.add o every) notes).fault = none ∧
      (steps.foldl (Notes.add o every) notes).records =
        ((steps.filter fun s => isDue every (s.step + 1)).map o.entry).reverse ++
          notes.records := by
  induction steps generalizing notes with
  | nil => exact ⟨hnone, rfl⟩
  | cons s steps ih =>
    obtain ⟨hs, hrest⟩ := List.forall_mem_cons.mp h
    obtain ⟨hfault, hrecords⟩ := Notes.add_eq every hnone hs
    obtain ⟨hfault', hrecords'⟩ := ih hrest _ hfault
    refine ⟨hfault', ?_⟩
    rw [List.foldl_cons, hrecords', hrecords, List.filter_cons]
    by_cases hdue : isDue every (s.step + 1) = true
    · rw [if_pos hdue, if_pos hdue, List.map_cons, List.reverse_cons, List.append_assoc]
    · rw [if_neg hdue, if_neg hdue, List.nil_append]

end Notes

/-! ## Runs -/

section Run

variable {inner : LeastSquares.PassiveSolve α} {c : RunConfig α}

variable (γ) in
/-- Observers of a fit all see `standardSteps`, and do not change the result. -/
theorem standardFit_observed (inner : LeastSquares.PassiveSolve α) (o : Observations α)
    (config : FitConfig α) :
    ∃ (result : Except (Fault α) (Mixture α o.dims)) (g' : γ),
      ∀ {σ : Type} (observe : σ → Snapshot α o.dims → σ) (seen : σ), ∃ capped,
        standardFit γ inner o config observe seen =
          ⟨result, (standardSteps γ inner o config).foldl observe seen, g', capped⟩ :=
  adaptiveFit_observed ..

/-- A fit that succeeds ends with the mixture of its last completed step. -/
theorem getLast_standardSteps {o : Observations α} {config : FitConfig α}
    {observe : σ → Snapshot α o.dims → σ} {seen : σ} {y : Mixture α o.dims}
    (h : (standardFit γ inner o config observe seen).result = .ok y) :
    ∃ s, (standardSteps γ inner o config).getLast? = some s ∧ s.mixture = y :=
  (completedSteps_of_result h).2

variable (γ inner c) in
/-- The records of a run's fit to the problem `p`, first to last: an `entry` for
each step at which one `isDue`. -/
def FitRun.records (p : Problem α) : List (StepRecord α) :=
  ((standardSteps γ inner p.observations c.fitConfig).filter
    fun s => isDue c.traceEvery (s.step + 1)).map p.observations.entry

/-- **The result of `runFit`** for settings with a problem is that of its fit
when nobody observes it. Neither the records nor the last measurement can fail. -/
theorem runFit_of_generate {p : Problem α} (hp : Problem.generate γ c = .ok p) :
    (runFit γ inner c).result = refusedBy
      ((standardFit γ inner p.observations c.fitConfig (fun _ _ => ()) ()).result.map
        fun fitted => ⟨p, fitted, p.observations.distance fitted.components,
          FitRun.records γ inner c p⟩) := by
  have hmeasured : ∀ s ∈ standardSteps γ inner p.observations c.fitConfig,
      p.observations.measure s.mixture.components =
        .ok (p.observations.distance s.mixture.components) :=
    fun s hs => measure_completedSteps hs
  obtain ⟨result, g', hfit⟩ := standardFit_observed γ inner p.observations c.fitConfig
  obtain ⟨capped, hown⟩ := hfit (Notes.add p.observations c.traceEvery) .empty
  obtain ⟨capped', hother⟩ := hfit (fun _ _ => ()) ()
  obtain ⟨hfault, hrecords⟩ :=
    Notes.foldl_add c.traceEvery hmeasured .empty rfl
  rw [Notes.empty, List.append_nil] at hrecords
  rw [runFit, hp]
  dsimp only
  rw [hown, hother, hfault]
  cases result with
  | error fault => rfl
  | ok fitted =>
    -- the fitted mixture is the one that the last completed step has left
    obtain ⟨s, hs, rfl⟩ := getLast_standardSteps (congrArg FitOutcome.result hother)
    dsimp only
    rw [hmeasured s (List.mem_of_getLast? hs), Notes.empty, hrecords,
      List.reverse_reverse]
    rfl

variable {run : FitRun α} {failure : Failure α}

/-- **The results of `runFit`** are the problem of its settings, what the fit
makes of it, the distance that is left, and the records of the steps that were
due. -/
theorem runFit_eq_ok_iff :
    (runFit γ inner c).result = .ok run ↔
      Problem.generate γ c = .ok run.problem ∧
      (standardFit γ inner run.problem.observations c.fitConfig
          (fun _ _ => ()) ()).result =
        .ok run.fitted ∧
      run.distance = run.problem.observations.distance run.fitted.components ∧
      run.trajectory = FitRun.records γ inner c run.problem := by
  constructor
  · intro h
    cases hp : Problem.generate γ c with
    | error failure =>
      rw [runFit, hp] at h
      cases h
    | ok p =>
      rw [runFit_of_generate hp, refusedBy, mapError_eq_ok_iff, map_eq_ok_iff] at h
      obtain ⟨fitted, hfitted, rfl⟩ := h
      exact ⟨rfl, hfitted, rfl, rfl⟩
  · rintro ⟨hp, hfitted, hdistance, htrajectory⟩
    rw [runFit_of_generate hp, refusedBy, mapError_eq_ok_iff, map_eq_ok_iff]
    refine ⟨run.fitted, hfitted, ?_⟩
    rw [← hdistance, ← htrajectory]

/-- `runFit` fails because there is no problem, or because of a fault of the
fit. -/
theorem runFit_eq_error_iff :
    (runFit γ inner c).result = .error failure ↔ Problem.generate γ c = .error failure ∨
      ∃ p fault, Problem.generate γ c = .ok p ∧ failure = .refused fault ∧
        (standardFit γ inner p.observations c.fitConfig (fun _ _ => ()) ()).result =
          .error fault := by
  cases hp : Problem.generate γ c with
  | error found =>
    rw [runFit, hp]
    constructor
    · rintro ⟨⟩
      exact .inl rfl
    · rintro (⟨⟨⟩⟩ | ⟨p, fault, h, -⟩)
      · rfl
      · cases h
  | ok p =>
    rw [runFit_of_generate hp, refusedBy, mapError_eq_error_iff]
    constructor
    · rintro ⟨fault, h, rfl⟩
      exact .inr ⟨p, fault, rfl, rfl, map_eq_error_iff.mp h⟩
    · rintro (h | ⟨p', fault, h, rfl, hfault⟩)
      · cases h
      · cases h
        exact ⟨fault, map_eq_error_iff.mpr hfault, rfl⟩

end Run

end ReachMixture
