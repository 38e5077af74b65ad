import ReachMixture.Proofs.Fit.Residuals

/-!
# Trajectories of runs

A run records every so many steps of its fit. Records are taken by an observer,
and observers do not change a fit, so how many are taken shows in the trajectory
and nowhere else.

- `range_filter_isDue`: the numbers of the steps at which a record is due.
- `Observations.observe_eq`: `observeStep`, which is fed with tables, takes the
  same records and skips no mixture.
- `getLast_trajectory`, `runFit_traceEvery`: what a trajectory shares with the
  results of its run.
- `runFit_trajectory`: which steps a trajectory has, and what is recorded of
  them.
-/

namespace ReachMixture

variable {α γ : Type}

/-! ## When records are due -/

theorem isDue_iff {every : Nat} (hevery : 0 < every) (done : Nat) :
    isDue every done = true ↔ every ∣ done := by
  rw [isDue, Bool.and_eq_true, bne_iff_ne, beq_iff_eq, Nat.dvd_iff_mod_eq_zero]
  exact and_iff_right hevery.ne'

/-- Of `steps` steps every `every`th is recorded, and that is the last of the
`every` steps it stands for. -/
theorem range_filter_isDue {every : Nat} (hevery : 0 < every) (steps : Nat) :
    (List.range steps).filter (fun i => isDue every (i + 1)) =
      (List.range (steps / every)).map fun k => (k + 1) * every - 1 := by
  induction steps with
  | zero =>
    rw [Nat.zero_div]
    rfl
  | succ steps ih =>
    rw [List.range_succ, List.filter_append, ih, List.filter_singleton]
    by_cases hdue : every ∣ steps + 1
    · -- the quotient grows with this step, and the new record is its own
      have hlast : (steps / every + 1) * every - 1 = steps := by
        rw [← Nat.succ_div_of_dvd hdue, Nat.div_mul_cancel hdue, Nat.add_sub_cancel]
      rw [(isDue_iff hevery _).mpr hdue, Nat.succ_div_of_dvd hdue, List.range_succ,
        List.map_append, List.map_singleton, hlast]
      rfl
    · have hnot : isDue every (steps + 1) = false :=
        Bool.eq_false_iff.mpr (mt (isDue_iff hevery _).mp hdue)
      rw [hnot, Nat.succ_div_of_not_dvd hdue]
      exact List.append_nil _

/-! ## Records of mixtures -/

theorem Table.vectors_ofVectors {m n : Nat} (rows : Vector (Vector α m) n) :
    (Table.ofVectors rows).vectors = rows :=
  Vector.ext fun _ hi => Vector.getElem_ofFn hi

theorem Table.vectorsOf_ofVectors {m n : Nat} (rows : Vector (Vector α m) n) :
    (Table.ofVectors rows).vectorsOf (m := m) rfl = rows := by
  show (Table.ofVectors rows).vectors.map (fun row => row) = rows
  rw [Vector.map_id_fun', Table.vectors_ofVectors]
  rfl

/-- `predictTable` of tables with the right shapes is `Component.evaluate` of
their rows. -/
theorem predictTable_of_shapes [Zero α] [Add α] [Mul α] [Neg α]
    [Scalar α] {weights : List α} {locations signal : Table α}
    (hweights : weights.length = locations.rows) (hcols : signal.cols = locations.cols) :
    predictTable weights locations signal =
      Component.evaluate (List.zipWith Component.mk weights locations.rowList)
        (signal.vectorsOf hcols) := by
  rw [predictTable, Component.zipTable, if_pos hweights]
  exact dif_pos hcols

theorem measureTable_of_shapes [Zero α] [Add α] [Sub α] [Mul α] [Neg α] [Scalar α]
    {weights target : List α} {locations signal : Table α}
    (hweights : weights.length = locations.rows) (hcols : signal.cols = locations.cols)
    (htarget : target.length = signal.rows) :
    measureTable weights locations signal target = do
      let prediction ← Component.evaluate
        (List.zipWith Component.mk weights locations.rowList) (signal.vectorsOf hcols)
        return Vec.distance prediction (Vec.ofList target htarget) := by
  rw [measureTable, predictTable_of_shapes hweights hcols]
  exact congrArg _ (funext fun prediction => dif_pos htarget)

section Records

variable [Zero α] [Add α] [Sub α] [Mul α] [Neg α] [LT α] [Scalar α] {o : Observations α}

/-- `measureTable`, fed with the weights and locations of `x`, is `o.measure`. -/
theorem measureTable_mixture (o : Observations α) (x : Mixture α o.dims) :
    measureTable x.weights (.ofVectors (Vec.ofList x.locations rfl)) (.ofVectors o.signal)
      o.target.toList = o.measure x.components := by
  -- written out as pairs of shape and rows, the tables have columns that agree
  -- by definition
  have hlocations : (Table.mk _ _ (Vec.ofList x.locations rfl).get).rowList =
      x.locations :=
    congrArg Vector.toList (Table.vectors_ofVectors (Vec.ofList x.locations rfl))
  have hcols : (Table.mk _ _ o.signal.get).cols =
      (Table.mk _ _ (Vec.ofList x.locations rfl).get).cols := rfl
  have hsignal : (Table.mk _ _ o.signal.get).vectorsOf hcols = o.signal :=
    Table.vectorsOf_ofVectors o.signal
  refine (measureTable_of_shapes x.length_weights hcols Vector.length_toList).trans ?_
  rw [hlocations, hsignal, x.zipWith_weights_locations]
  rfl

/-- What `observeStep` makes of `x` if it is fed with tables of its weights and
locations. -/
def Observations.observe (o : Observations α) (every : Nat) (step : UInt64)
    (x : Mixture α o.dims) :
    Except (Fault α) (Recording α) :=
  observeStep (.ofVectors o.signal) o.target.toList every step x.weights
    (.ofVectors (Vec.ofList x.locations rfl))

/-- **No mixture is skipped** that can be measured. Fed with tables of it,
`observeStep` records it if a record is due. -/
theorem Observations.observe_eq {x : Mixture α o.dims}
    (h : o.measure x.components = .ok (o.distance x.components))
    (every : Nat) (step : UInt64) :
    o.observe every step x =
      .ok (if isDue every (step + 1).toNat then
             .recorded ⟨step.toNat, x.size, x.totalWeight, o.distance x.components⟩
           else .notDue) := by
  have hsize : x.weights.length = x.size := List.length_map _
  rw [observe, observeStep, measureTable_mixture, h, recordStep_ok, hsize]
  rfl

/-- `observeStep` takes the same record of a step from its tables, as long as
the steps can be counted in 64 bits. -/
theorem Observations.observe_of_isDue {every : Nat} {s : Snapshot α o.dims}
    (h : o.measure s.mixture.components = .ok (o.distance s.mixture.components))
    (hcount : s.step + 1 < 2 ^ 64) (hdue : isDue every (s.step + 1) = true) :
    o.observe every (.ofNat s.step) s.mixture = .ok (.recorded (o.entry s)) := by
  have hnumber : (UInt64.ofNat s.step).toNat = s.step := by
    rw [UInt64.toNat_ofNat', Nat.mod_eq_of_lt (by omega)]
  have hdone : (UInt64.ofNat s.step + 1).toNat = s.step + 1 := by
    rw [UInt64.toNat_add, hnumber, UInt64.toNat_one, Nat.mod_eq_of_lt hcount]
  rw [observe_eq h, hdone, if_pos hdue, hnumber]
  rfl

/-- What is recorded of `total` steps that are numbered from zero on. -/
theorem map_step_entries {every : Nat} (hevery : 0 < every)
    {steps : List (Snapshot α o.dims)} {total : Nat}
    (hsteps : steps.map Snapshot.step = List.range total) :
    ((steps.filter fun s => isDue every (s.step + 1)).map o.entry).map StepRecord.step =
      (List.range (total / every)).map fun k => (k + 1) * every - 1 := by
  rw [← range_filter_isDue hevery, ← hsteps, List.filter_map, List.map_map]
  rfl

end Records

section Run

variable [Zero α] [One α] [Add α] [Sub α] [Mul α] [Div α] [Neg α] [LT α] [LE α]
  [DecidableLT α] [DecidableLE α]
variable [NatCast α] [Scalar α] [RandomSource γ α]
variable {inner : LeastSquares.PassiveSolve α} {c : RunConfig α} {run : FitRun α}

/-- The steps of a run that has results are numbered from `0` to `maxSteps - 1`. -/
theorem map_step_of_runFit (h : (runFit γ inner c).result = .ok run) :
    (standardSteps γ inner run.problem.observations c.fitConfig).map Snapshot.step =
      List.range c.maxSteps := by
  obtain ⟨-, hfitted, -⟩ := runFit_eq_ok_iff.mp h
  have hlength : (standardSteps γ inner run.problem.observations c.fitConfig).length =
      c.maxSteps :=
    (completedSteps_of_result hfitted).1
  rw [← hlength]
  exact map_step_completedSteps ..

/-- The last record, if `traceEvery` divides `maxSteps`, is that of the fitted
mixture. -/
theorem getLast_trajectory (h : (runFit γ inner c).result = .ok run)
    (hevery : 0 < c.traceEvery) (hdue : c.traceEvery ∣ c.maxSteps) :
    ∃ r, run.trajectory.getLast? = some r ∧ r.components = run.fitted.size ∧
      r.weightSum = run.fitted.totalWeight ∧ r.residualNorm = run.distance := by
  obtain ⟨-, hfitted, hdistance, htrajectory⟩ := runFit_eq_ok_iff.mp h
  obtain ⟨s, hs, hmixture⟩ := getLast_standardSteps hfitted
  obtain ⟨before, hsteps⟩ := List.getLast?_eq_some_iff.mp hs
  have hstep : s.step + 1 = c.maxSteps := by
    have hnumbers := map_step_of_runFit h
    have hcount : before.length + 1 = c.maxSteps := by
      simpa [hsteps] using congrArg List.length hnumbers
    rw [hsteps, ← hcount, List.range_succ, List.map_append] at hnumbers
    rw [← hcount, List.singleton_inj.mp (List.append_inj' hnumbers rfl).2]
  -- the last step is due, so its entry comes last
  have hlast : isDue c.traceEvery (s.step + 1) = true :=
    hstep.symm ▸ (isDue_iff hevery _).mpr hdue
  refine ⟨run.problem.observations.entry s, ?_, ?_⟩
  · rw [htrajectory, FitRun.records, hsteps, List.filter_append, List.filter_singleton,
      hlast, cond_true, List.map_append, List.map_singleton, List.getLast?_concat]
  · rw [hdistance, ← hmixture]
    exact ⟨rfl, rfl, rfl⟩

/-- `traceEvery` does not show in the other results. -/
theorem runFit_traceEvery (h : (runFit γ inner c).result = .ok run) (every : Nat) :
    ∃ trajectory, (runFit γ inner { c with traceEvery := every }).result =
      .ok { run with trajectory := trajectory } := by
  obtain ⟨hproblem, hfitted, hdistance, -⟩ := runFit_eq_ok_iff.mp h
  -- neither the problem nor the settings of the fit are made from the settings
  -- of the trajectory
  exact ⟨FitRun.records γ inner { c with traceEvery := every } run.problem,
    runFit_eq_ok_iff.mpr ⟨hproblem, hfitted, hdistance, rfl⟩⟩

/-- **Trajectories.** Let a run with results take `T` steps and record every
`N`th of them. Its trajectory is empty if `N` is zero. Otherwise it has `T / N`
records, one for each of the steps `N - 1`, `2 * N - 1` and so on, and each of
them holds the size, the total weight and the distance from the target of the
mixture that its step has left. None of these steps is skipped: from the tables
of a step `observeStep` takes the same record, whenever one is due. If `N`
divides `T` the last record agrees with the results of the run. With any other
`N` the problem, the fitted mixture and its distance are the same. -/
theorem runFit_trajectory (γ : Type) [RandomSource γ α]
    (inner : LeastSquares.PassiveSolve α) (c : RunConfig α) (run : FitRun α)
    (h : (runFit γ inner c).result = .ok run) :
    ∃ steps : List (Snapshot α run.problem.observations.dims),
      steps = standardSteps γ inner run.problem.observations c.fitConfig ∧
      steps.map Snapshot.step = List.range c.maxSteps ∧
      (c.traceEvery = 0 → run.trajectory = []) ∧
      (0 < c.traceEvery →
        run.trajectory.length = c.maxSteps / c.traceEvery ∧
        run.trajectory.map StepRecord.step =
          (List.range (c.maxSteps / c.traceEvery)).map fun k =>
            (k + 1) * c.traceEvery - 1) ∧
      (∀ r ∈ run.trajectory, ∃ s, steps[r.step]? = some s ∧
        r.components = s.mixture.size ∧ r.weightSum = s.mixture.totalWeight ∧
        r.residualNorm =
          Vec.distance (predict s.mixture.components run.problem.observations.signal)
            run.problem.observations.target ∧
        (c.maxSteps < 2 ^ 64 → run.problem.observations.observe c.traceEvery
          (.ofNat r.step) s.mixture = .ok (.recorded r))) ∧
      (∀ s ∈ steps, ∀ every number, ∃ taken,
        run.problem.observations.observe every number s.mixture = .ok taken ∧
        ∀ fault, taken ≠ .skipped fault) ∧
      (0 < c.traceEvery → c.traceEvery ∣ c.maxSteps →
          ∃ r, run.trajectory.getLast? = some r ∧
        r.components = run.fitted.size ∧ r.weightSum = run.fitted.totalWeight ∧
        r.residualNorm = run.distance) ∧
      ∀ every, ∃ trajectory, (runFit γ inner { c with traceEvery := every }).result =
        .ok { run with trajectory := trajectory } := by
  have hsteps := map_step_of_runFit h
  obtain ⟨-, -, -, htrajectory⟩ := runFit_eq_ok_iff.mp h
  refine ⟨_, rfl, hsteps, ?_, ?_, ?_, ?_, getLast_trajectory h, runFit_traceEvery h⟩
  · intro hnever
    rw [htrajectory, FitRun.records, hnever]
    exact List.map_eq_nil_iff.mpr
      (List.filter_eq_nil_iff.mpr fun _ _ => Bool.false_ne_true)
  · intro hevery
    have hnumbers := map_step_entries (o := run.problem.observations) hevery hsteps
    rw [← FitRun.records, ← htrajectory] at hnumbers
    refine ⟨?_, hnumbers⟩
    calc run.trajectory.length = (run.trajectory.map StepRecord.step).length :=
          (List.length_map _).symm
      _ = c.maxSteps / c.traceEvery := by
        rw [hnumbers, List.length_map, List.length_range]
  · intro r hr
    rw [htrajectory, FitRun.records, List.mem_map] at hr
    obtain ⟨s, hs, rfl⟩ := hr
    obtain ⟨hmem, hdue⟩ := List.mem_filter.mp hs
    refine ⟨s, getElem?_completedSteps hmem, rfl, rfl, rfl, fun hbound => ?_⟩
    -- the number of a recorded step fits into 64 bits if `maxSteps` does
    have hlt : s.step < c.maxSteps := by
      rw [← List.mem_range, ← hsteps]
      exact List.mem_map_of_mem hmem
    exact Observations.observe_of_isDue (measure_completedSteps hmem) (by omega) hdue
  · intro s hs every number
    refine ⟨_, Observations.observe_eq (measure_completedSteps hs) every number,
      fun fault => ?_⟩
    split_ifs
    · simp
    · simp

end Run

/-- Four steps, every second of which is recorded. -/
def tracedRun : RunConfig ℚ := { lopsidedRun with maxSteps := 4, traceEvery := 2 }

/-- The second and the fourth step of `tracedRun` are recorded, the latter with
the distance of the run. Without records the fit is the same. -/
theorem runFit_trajectory_traced :
    ∃ run, (runFit Alternating LeastSquares.ActiveSet.ratSolve tracedRun).result =
        .ok run ∧
      run.trajectory.map StepRecord.step = [1, 3] ∧
      (∃ r, run.trajectory.getLast? = some r ∧ r.components = run.fitted.size ∧
        r.weightSum = run.fitted.totalWeight ∧ r.residualNorm = run.distance) ∧
      ∃ trajectory, (runFit Alternating LeastSquares.ActiveSet.ratSolve
          { tracedRun with traceEvery := 0 }).result =
        .ok { run with trajectory := trajectory } := by
  have hok : (runFit Alternating LeastSquares.ActiveSet.ratSolve
      tracedRun).result.toOption.any (fun _ => true) = true := by
    decide +kernel
  obtain ⟨run, hrun, -⟩ := exists_ok_of_any hok
  obtain ⟨_, -, -, -, hrecords, -, -, hlast, hother⟩ :=
    runFit_trajectory Alternating LeastSquares.ActiveSet.ratSolve tracedRun run hrun
  obtain ⟨-, hnumbers⟩ := hrecords (by decide)
  exact ⟨run, hrun, hnumbers, hlast (by decide) (by decide), hother 0⟩

end ReachMixture
