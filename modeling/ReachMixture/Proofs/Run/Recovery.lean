import ReachMixture.Proofs.LeastSquares.Independence
import ReachMixture.Proofs.Run.Success
import ReachMixture.Proofs.Run.Trajectory

/-!
# Weights that made a target are recovered

A target that was predicted from weights can be solved for weights again. The
target is made audience by audience, and the solver reads the same reach
location by location, so the weights that made the target are coefficients that
cost nothing. What `activeSet` answers when it converges costs little more, and
predicts almost the same reach. The weights themselves may come out differently
if locations reach the audiences alike.

- `Observations.cost_le_of_target`: the cost of the solver's answer for such a
  target.
- `predictTable_eq_ok_iff`, `fitWeights_eq_ok_iff`: predictions and solves for
  tables as those for vectors.
- `exists_cost_of_runWeights`: the distance in the results of a run is the root
  of such a cost.
- `weights_recovered`: **the prediction is recovered up to the solver's
  tolerance**.
- `gramSolve_total`: trials through the normal equations are all answered, if
  the columns are independent.
-/

namespace ReachMixture

variable {α : Type}

open LeastSquares

section Solver

variable {n k : Nat} [Field α] [LinearOrder α] [IsStrictOrderedRing α]
  [Scalar α] [ExactScalar α]

/-- **Recovery.** Let `o.target` be what nonnegative `weights` at the locations
of `pool` predict. If `activeSet` converges on `o.design pool` with trials that
solve their normal equations, the cost of its answer is at most `2 * tolerance`
for each unit of weight. -/
theorem Observations.cost_le_of_target {o : Observations α}
    {pool : List (Vector α o.dims)} {weights : List α}
    (hlength : weights.length = pool.length) (hnonneg : ∀ w ∈ weights, 0 ≤ w)
    (htarget : o.target = predict (List.zipWith Component.mk weights pool) o.signal)
    {inner : PassiveSolve α} {cap : Nat} (hexact : inner.Exact (o.design pool))
    (hconverged : ((activeSet inner cap).solve (o.design pool)).converged = true) :
    ∃ x : Vector α pool.length,
      ((activeSet inner cap).solve (o.design pool)).coefficients = x.toList ∧
      (o.design pool).cost x ≤ 2 * (o.design pool).tolerance * weights.sum := by
  obtain ⟨s, hs, -, -, hoptimal⟩ :=
    ActiveSet.exists_settled_of_converged hexact hconverged
  have hw : ∀ i, 0 ≤ (Vec.ofList weights hlength).get i := by
    intro i
    have hmem : (Vec.ofList weights hlength).get i ∈
        (Vec.ofList weights hlength).toList :=
      Vector.mem_toList_iff.mpr (Vector.getElem_mem i.isLt)
    exact hnonneg _ hmem
  have hpredict : (o.design pool).predict (Vec.ofList weights hlength) = o.target := by
    rw [htarget, ← o.predict_design]
    rfl
  -- the weights themselves cost nothing
  have hzero : (o.design pool).cost (Vec.ofList weights hlength) = 0 := by
    rw [Design.cost_eq, hpredict]
    refine Finset.sum_eq_zero fun row _ => ?_
    show (o.target.get row - o.target.get row) ^ 2 = 0
    rw [sub_self, zero_pow two_ne_zero]
  refine ⟨s.point, hs, ?_⟩
  calc (o.design pool).cost s.point
      ≤ (o.design pool).cost (Vec.ofList weights hlength) +
          2 * (o.design pool).tolerance * ∑ j,
            (Vec.ofList weights hlength).get j := hoptimal _ hw
    _ = 2 * (o.design pool).tolerance * weights.sum := by
        rw [hzero, zero_add, Vec.sum_get]
        rfl

end Solver

/-! ## Tables -/

section Tables

variable [Zero α] [Add α] [Mul α] [Neg α] [Scalar α] {locations signal : Table α}

/-- Locations or audiences may be cast to the other's number of coordinates: the
prediction is the same. -/
theorem predict_cast {m m' n : Nat} (h : m = m') (weights : List α)
    (locations : List (Vector α m)) (signal : Vector (Vector α m') n) :
    predict (List.zipWith Component.mk weights locations)
        (signal.map fun row => row.cast h.symm) =
      predict (List.zipWith Component.mk weights (locations.map fun row => row.cast h))
        signal := by
  subst h
  have hcast : (fun row : Vector α m => row.cast rfl) = id := rfl
  rw [hcast, Vector.map_id, List.map_id]

/-- **`predictTable` at the rows of a table** succeeds iff there are as many
weights, the rows fit the signal, and their reach and the sums over it have
room. It returns `predict` for the rows. -/
theorem predictTable_eq_ok_iff {weights : List α} {target : Vector α signal.rows} :
    predictTable weights locations signal = .ok target ↔
      ∃ hcols : locations.cols = signal.cols, weights.length = locations.rows ∧
        locations.rows * signal.rows < Capacity.entries ∧ signal.rows < Capacity.entries ∧
        predict (List.zipWith Component.mk weights (locations.vectorsOf hcols).toList)
          signal.vectors = target := by
  -- where the shapes fit, only room decides; elsewhere the table is refused
  have hshapes : ∀ (hlength : weights.length = locations.rows)
      (hcols : locations.cols = signal.cols),
      predictTable weights locations signal = .ok target ↔
        locations.rows * signal.rows < Capacity.entries ∧ signal.rows < Capacity.entries ∧
        predict (List.zipWith Component.mk weights (locations.vectorsOf hcols).toList)
          signal.vectors = target := by
    intro hlength hcols
    have hcount : (List.zipWith Component.mk weights locations.rowList).length =
        locations.rows := by
      rw [List.length_zipWith, hlength, Table.rowList, Vector.length_toList, Nat.min_self]
    have hrows : predict (List.zipWith Component.mk weights locations.rowList)
        (signal.vectorsOf hcols.symm) = predict (List.zipWith Component.mk weights
          (locations.vectorsOf hcols).toList) signal.vectors := by
      rw [Table.vectorsOf, predict_cast hcols, Table.vectorsOf, Vector.toList_map]
      rfl
    rw [predictTable_of_shapes hlength hcols.symm,
      Component.evaluate_eq_ok_iff, hcount, ← hrows]
    rfl
  constructor
  · intro h
    obtain ⟨hlength, hcols⟩ : weights.length = locations.rows ∧
        locations.cols = signal.cols := by
      unfold predictTable Component.zipTable at h
      split at h
      · rename_i hlength
        refine ⟨hlength, ?_⟩
        by_contra hne
        simp only [bind, Except.bind] at h
        rw [dif_neg (fun heq => hne heq.symm)] at h
        cases h
      · cases h
    exact ⟨hcols, hlength, (hshapes hlength hcols).mp h⟩
  · rintro ⟨hcols, hlength, h⟩
    exact (hshapes hlength hcols).mpr h

/-- **`fitWeights` at the rows of a table** that fit the signal succeeds iff
their reach and what the solver keeps have room. -/
theorem fitWeights_eq_ok_iff {solver : Solver α} (hcols : locations.cols = signal.cols)
    (hrows : 0 < signal.rows) (hdims : 0 < signal.cols) {target : Vector α signal.rows}
    {answer : Solution α} :
    fitWeights solver locations signal target.toList = .ok answer ↔
      locations.rows * signal.rows < Capacity.entries ∧
      locations.rows * solver.kept signal.rows locations.rows < Capacity.entries ∧
      solver.solve (design signal.vectors target (locations.vectorsOf hcols).toList) =
        answer := by
  have hobservations : Observations.ofTable signal target.toList =
      .ok ⟨signal.rows, signal.cols, signal.vectors, target, hrows, hdims⟩ := by
    rw [Observations.ofTable, dif_pos ⟨hrows, hdims⟩, dif_pos Vector.length_toList]
    rfl
  rw [fitWeights, hobservations]
  show (if h : locations.cols = signal.cols then _ else _) = _ ↔ _
  rw [dif_pos hcols]
  exact Observations.solveWeights_eq_ok_iff

end Tables

section Recovery

variable [Field α] [LinearOrder α] [IsStrictOrderedRing α] [Scalar α] [ExactScalar α]

omit [LinearOrder α] [IsStrictOrderedRing α] [ExactScalar α] in
/-- `o.distance` of weighted locations is the root of the `cost` of their
weights. -/
theorem Observations.distance_eq_sqrt_cost (o : Observations α)
    (pool : List (Vector α o.dims)) (x : Vector α pool.length) :
    o.distance (List.zipWith Component.mk x.toList pool) =
      Scalar.sqrt ((o.design pool).cost x) := by
  rw [Observations.distance, o.predict_design]
  rfl

omit [IsStrictOrderedRing α] [ExactScalar α] in
/-- The target of a problem is what `predict` makes of the weights of the
settings and its locations. -/
theorem Problem.target_of_generate {γ : Type} [RandomSource γ α] {c : RunConfig α}
    {p : Problem α} (h : Problem.generate γ c = .ok p) :
    p.truth.weights = c.truthWeights ∧
      p.observations.target =
        predict (List.zipWith Component.mk p.truth.weights p.truth.locations)
          p.observations.signal := by
  obtain ⟨truth, hrows, htruth, -, rfl⟩ := Problem.exists_truth_of_generate h
  obtain ⟨-, hweights, -⟩ := truthMixture_eq_ok_iff.mp htruth
  refine ⟨hweights, ?_⟩
  rw [Mixture.zipWith_weights_locations]
  rfl

/-- The distance in the results of `runWeights` is the root of the cost of its
weights. -/
theorem exists_cost_of_runWeights {γ : Type} [RandomSource γ α] {inner : PassiveSolve α}
    {c : RunConfig α} {run : WeightsRun α} (h : (runWeights γ inner c).result = .ok run)
    (hexact : inner.Exact (run.problem.observations.design run.problem.truth.locations))
    (hconverged : ((activeSet inner c.solverCap).solve
      (run.problem.observations.design run.problem.truth.locations)).converged = true) :
    ∃ cost, run.distance = Scalar.sqrt cost ∧ 0 ≤ cost ∧
      cost ≤ 2 * (run.problem.observations.design
        run.problem.truth.locations).tolerance * c.truthWeights.sum := by
  obtain ⟨hp, -, hrecovered, hdistance⟩ := runWeights_eq_ok_iff.mp h
  obtain ⟨hweights, htarget⟩ := Problem.target_of_generate hp
  have hnonneg : ∀ w ∈ run.problem.truth.weights, 0 ≤ w := by
    intro w hw
    obtain ⟨component, hcomponent, rfl⟩ := List.mem_map.mp hw
    exact run.problem.truth.weight_nonneg component hcomponent
  obtain ⟨x, hx, hcost⟩ := Observations.cost_le_of_target
    run.problem.truth.length_weights hnonneg htarget hexact hconverged
  refine ⟨_, ?_, Design.cost_nonneg _ x, hweights ▸ hcost⟩
  rw [hdistance, hrecovered, hx, Observations.distance_eq_sqrt_cost]

/-- **The prediction is recovered.** Let nonnegative weights predict a target
(`predictTable`). `fitWeights` at the same locations succeeds iff a Gram matrix
of the locations has room, and then so does `predictTable` with the answer. If
the solver has converged, with trials that solve their normal equations, that
prediction is off the target by at most twice the solver's tolerance for each
unit of weight, in squared distance. So is the distance that `runWeights`
reports, whose target is made from the weights of its settings, if roots are
exact. -/
theorem weights_recovered (inner : PassiveSolve α) :
    (∀ (weights : List α) (locations signal : Table α) (target : Vector α signal.rows)
        (cap : Nat), 0 < signal.rows → 0 < signal.cols → (∀ w ∈ weights, 0 ≤ w) →
      predictTable weights locations signal = .ok target →
      ((∃ answer, fitWeights (activeSet inner cap) locations signal target.toList =
          .ok answer) ↔
        locations.rows * locations.rows < Capacity.entries) ∧
      ∃ hcols : locations.cols = signal.cols, ∀ answer : Solution α,
        fitWeights (activeSet inner cap) locations signal target.toList = .ok answer →
        ∃ fitted : Vector α signal.rows,
          predictTable answer.coefficients locations signal = .ok fitted ∧
          (inner.Exact (design signal.vectors target (locations.vectorsOf hcols).toList) →
            answer.converged = true →
            ∑ row, (fitted.get row - target.get row) ^ 2 ≤
              2 * (design signal.vectors target
                  (locations.vectorsOf hcols).toList).tolerance *
                weights.sum)) ∧
    ∀ (γ : Type) [RandomSource γ α] (c : RunConfig α) (run : WeightsRun α),
      (runWeights γ inner c).result = .ok run →
      inner.Exact (run.problem.observations.design run.problem.truth.locations) →
      ((activeSet inner c.solverCap).solve
        (run.problem.observations.design run.problem.truth.locations)).converged = true →
      (∀ v : α, 0 ≤ v → Scalar.sqrt v * Scalar.sqrt v = v) →
      run.distance * run.distance ≤
        2 * (run.problem.observations.design run.problem.truth.locations).tolerance *
          c.truthWeights.sum := by
  constructor
  · intro weights locations signal target cap hrows hdims hnonneg htarget
    obtain ⟨hcols, hlength, hreach, hsums, hmade⟩ := predictTable_eq_ok_iff.mp htarget
    have hpool : (locations.vectorsOf hcols).toList.length = locations.rows :=
      Vector.length_toList
    refine ⟨⟨?_, ?_⟩, hcols, fun answer hanswer => ?_⟩
    · rintro ⟨answer, hanswer⟩
      exact ((fitWeights_eq_ok_iff hcols hrows hdims).mp hanswer).2.1
    · intro hgram
      exact ⟨_, (fitWeights_eq_ok_iff hcols hrows hdims).mpr ⟨hreach, hgram, rfl⟩⟩
    · obtain ⟨-, -, rfl⟩ := (fitWeights_eq_ok_iff hcols hrows hdims).mp hanswer
      have hcount : ((activeSet inner cap).solve (design signal.vectors target
          (locations.vectorsOf hcols).toList)).coefficients.length = locations.rows := by
        rw [ActiveSet.activeSet_coefficients, Vector.length_toList, hpool]
      refine ⟨_, predictTable_eq_ok_iff.mpr ⟨hcols, hcount, hreach, hsums, rfl⟩,
        fun hexact hconverged => ?_⟩
      obtain ⟨x, hx, hcost⟩ := Observations.cost_le_of_target
        (o := ⟨signal.rows, signal.cols, signal.vectors, target, hrows, hdims⟩)
        (hlength.trans hpool.symm) hnonneg hmade.symm hexact hconverged
      -- the solver's prediction from columns is the mixture's prediction
      -- audience by audience
      have hpredict :=
        (congrArg (fun l => predict (List.zipWith Component.mk l _) signal.vectors)
          hx).trans (Observations.predict_design
          ⟨signal.rows, signal.cols, signal.vectors, target, hrows, hdims⟩ _ x)
      refine le_of_eq_of_le ?_ hcost
      rw [Design.cost_eq, ← hpredict]
      rfl
  · intro γ _ c run h hexact hconverged hroots
    obtain ⟨cost, hdistance, hnonneg, hle⟩ :=
      exists_cost_of_runWeights h hexact hconverged
    rw [hdistance, hroots cost hnonneg]
    exact hle

end Recovery

/-! ## A case in real numbers -/

section Elimination

variable {n k : Nat} [Field α] [LinearOrder α] [IsStrictOrderedRing α]
  [Scalar α] [ExactScalar α]

/-- `gramSolve` answers all trials of independent columns. -/
theorem gramSolve_total (helim : ExactElimination α) {d : Design α n k}
    (h : LinearIndependent α d.column) :
    (gramSolve fun _ => none).Total d := by
  intro idx hidx
  have hnodup := hidx.nodup (List.nodup_finRange k)
  have hdefinite := d.positiveDefinite_gram (h.comp _ hnodup.injective_get)
  obtain ⟨y, hy, -⟩ := d.exists_direct helim hnodup hdefinite
  rw [gramSolve_trial, hy]
  exact ⟨_, rfl⟩

end Elimination

/-- `partialReach x = 1 - exp (-x)` is positive at positive rates. -/
theorem partialReach_pos {x : ℝ} (hx : 0 < x) : 0 < partialReach x := by
  show 0 < -(Real.exp (-x) - 1)
  rw [neg_sub, sub_pos, Real.exp_lt_one_iff]
  exact neg_neg_of_pos hx

theorem partialReach_zero : partialReach (0 : ℝ) = 0 := by
  show -(Real.exp (-0) - 1) = 0
  rw [neg_zero, Real.exp_zero, sub_self, neg_zero]

/-- Two locations, one for each identifier type. -/
noncomputable def crossedLocations : Vector (Vector ℝ 2) 2 :=
  Vec.ofList [Vec.ofList [1, 0] rfl, Vec.ofList [0, 1] rfl] rfl

/-- Two audiences. The first has only the first identifier type, the second has
both. -/
noncomputable def crossedSignal : Vector (Vector ℝ 2) 2 :=
  Vec.ofList [Vec.ofList [1, 0] rfl, Vec.ofList [1, 1] rfl] rfl

/-- The rates of `crossedLocations` on `crossedSignal`. The second location does
not reach the first audience, so the columns and the rows of the basis differ. -/
theorem crossed_dots :
    Vec.dot (crossedLocations.get 0) (crossedSignal.get 0) = 1 ∧
    Vec.dot (crossedLocations.get 1) (crossedSignal.get 0) = 0 ∧
    Vec.dot (crossedLocations.get 0) (crossedSignal.get 1) = 1 ∧
    Vec.dot (crossedLocations.get 1) (crossedSignal.get 1) = 1 := by
  simp [Vec.dot_eq, crossedLocations, crossedSignal, Vec.ofList, Vector.get_eq_getElem,
    Fin.sum_univ_two]

/-- The columns of the crossed locations are triangular, hence independent. -/
theorem crossed_independent (target : Vector ℝ 2) :
    LinearIndependent ℝ (design crossedSignal target crossedLocations.toList).column := by
  obtain ⟨hfirst, hnone, -, hlast⟩ := crossed_dots
  have hcolumn : ∀ j row : Fin 2,
      (design crossedSignal target crossedLocations.toList).column j row =
        partialReach (Vec.dot (crossedLocations.get j) (crossedSignal.get row)) :=
    Observations.design_column ⟨2, 2, crossedSignal, target, Nat.two_pos, Nat.two_pos⟩
      crossedLocations.toList
  have hone := partialReach_pos one_pos
  refine Fintype.linearIndependent_iff.mpr fun (g : Fin 2 → ℝ) hg => ?_
  have hsum : ∀ row : Fin 2,
      g 0 * partialReach (Vec.dot (crossedLocations.get 0) (crossedSignal.get row)) +
        g 1 * partialReach (Vec.dot (crossedLocations.get 1) (crossedSignal.get row)) =
          0 := by
    intro row
    rw [← hcolumn, ← hcolumn]
    have hrow : (∑ j : Fin 2,
        g j • (design crossedSignal target crossedLocations.toList).column j) row = 0 :=
      congrFun hg row
    rw [Fin.sum_univ_two] at hrow
    exact hrow
  -- only the first column reaches the first audience, so its coefficient is
  -- zero, and then so is the other
  have hzero := hsum 0
  rw [hfirst, hnone, partialReach_zero, mul_zero, add_zero] at hzero
  have hg₀ : g 0 = 0 := (mul_eq_zero.mp hzero).resolve_right hone.ne'
  have hone' := hsum 1
  rw [hlast, hg₀, zero_mul, zero_add] at hone'
  have hg₁ : g 1 = 0 := (mul_eq_zero.mp hone').resolve_right hone.ne'
  exact Fin.forall_fin_two.mpr ⟨hg₀, hg₁⟩

/-- Twelve iterations, `(k + 1) * 2 ^ k` for `k = 2`, are enough. -/
theorem crossed_converged (target : Vector ℝ 2) :
    ((activeSet (gramSolve fun _ => none) 12).solve
      (design crossedSignal target crossedLocations.toList)).converged = true := by
  obtain ⟨s, hs⟩ := ActiveSet.stage_converged (gramSolve_exact exactElimination _)
    (gramSolve_total exactElimination (crossed_independent target))
  exact ActiveSet.activeSet_converged.mpr
    ⟨s, ActiveSet.Setting.stage_of_converged hs le_rfl⟩

/-- A stream that counts its numbers. The second one is zero, and all others are
one. -/
structure Ticks where
  /-- How many numbers have been drawn. -/
  count : Nat

noncomputable instance : RandomSource Ticks ℝ where
  seeded _ := ⟨0⟩
  unit g := (if g.count = 1 then 0 else 1, ⟨g.count + 1⟩)
  below _ g := (0, g)
  normal g := (0, g)

/-- The crossed locations with equal weights, and as many audiences. -/
noncomputable def crossedRun : RunConfig ℝ :=
  { rows := 2, seed := 0, truthLocations := [[1, 0], [0, 1]], truthWeights := [1, 1],
    newCenters := 1, sigma := 1, maxSteps := 1, solverCap := 12, traceEvery := 0,
    exportTrajectory := none, json := false }

/-- The mixture of `crossedRun`. -/
noncomputable def crossedMixture : Mixture ℝ 2 where
  components := List.zipWith Component.mk [1, 1] crossedLocations.toList
  isWeight c hc := by
    have hweight : c.weight = 1 := by
      simp [crossedLocations, Vec.ofList] at hc
      rcases hc with rfl | rfl <;> rfl
    rw [hweight]
    exact ⟨rfl, not_lt.mpr zero_le_one⟩

theorem truthMixture_crossedRun :
    truthMixture crossedRun = .ok ⟨2, Nat.two_pos, crossedMixture⟩ :=
  truthMixture_eq_ok_iff.mpr ⟨List.cons_ne_nil _ _, rfl, rfl⟩

/-- The audiences that `Ticks` makes up for `crossedRun` are the crossed ones. -/
theorem crossedRun_converged {p : Problem ℝ}
    (h : Problem.generate Ticks crossedRun = .ok p) :
    ((activeSet (gramSolve fun _ => none) 12).solve
      (p.observations.design p.truth.locations)).converged = true := by
  rw [Problem.generate_of_truth Nat.two_pos truthMixture_crossedRun,
    if_pos (by decide)] at h
  cases h
  exact crossed_converged _

/-- Equal weights at the crossed locations, as tables and as a run. The basis is
not symmetric, so a target that were made from its columns in place of its rows
would be another one. -/
theorem weights_recovered_crossed :
    Vec.dot (crossedLocations.get 0) (crossedSignal.get 1) ≠
      Vec.dot (crossedLocations.get 1) (crossedSignal.get 0) ∧
    (∃ target answer fitted,
      predictTable [1, 1] (.ofVectors crossedLocations)
        (.ofVectors crossedSignal) = .ok target ∧
      fitWeights (activeSet (gramSolve fun _ => none) 12) (.ofVectors crossedLocations)
        (.ofVectors crossedSignal) target.toList = .ok answer ∧
      answer.converged = true ∧
      predictTable answer.coefficients (.ofVectors crossedLocations)
          (.ofVectors crossedSignal) =
        .ok fitted ∧
      ∑ row, (fitted.get row - target.get row) ^ 2 ≤
        2 * (design (Table.ofVectors crossedSignal).vectors target
          ((Table.ofVectors crossedLocations).vectorsOf rfl).toList).tolerance *
            (1 + 1)) ∧
    ∃ run, (runWeights Ticks (gramSolve fun _ => none) crossedRun).result = .ok run ∧
      run.distance * run.distance ≤
        2 * (run.problem.observations.design run.problem.truth.locations).tolerance *
          (1 + 1) := by
  obtain ⟨htables, hruns⟩ := weights_recovered (α := ℝ) (gramSolve fun _ => none)
  have hsum : ([1, 1] : List ℝ).sum = 1 + 1 := List.sum_pair ..
  refine ⟨?_, ?_, ?_⟩
  · obtain ⟨-, hnone, hone, -⟩ := crossed_dots
    rw [hnone, hone]
    exact one_ne_zero
  · obtain ⟨target, htarget⟩ : ∃ target, predictTable [1, 1] (.ofVectors crossedLocations)
        (.ofVectors crossedSignal) = .ok target :=
      ⟨_, predictTable_eq_ok_iff.mpr ⟨rfl, rfl, by decide, by decide, rfl⟩⟩
    obtain ⟨hsucceeds, hcols, hanswers⟩ := htables [1, 1] (.ofVectors crossedLocations)
      (.ofVectors crossedSignal) target 12 Nat.two_pos Nat.two_pos (by simp) htarget
    obtain ⟨answer, hanswer⟩ := hsucceeds.mpr (by decide)
    obtain ⟨fitted, hfitted, hbound⟩ := hanswers answer hanswer
    have hconverged : ∀ signal locations : Vector (Vector ℝ 2) 2, signal = crossedSignal →
        locations = crossedLocations → ((activeSet (gramSolve fun _ => none) 12).solve
          (design signal target locations.toList)).converged = true := by
      rintro _ _ rfl rfl
      exact crossed_converged target
    have hcertain : answer.converged = true := by
      obtain ⟨-, -, rfl⟩ :=
        (fitWeights_eq_ok_iff hcols Nat.two_pos Nat.two_pos).mp hanswer
      exact hconverged _ _ (Table.vectors_ofVectors _) (Table.vectorsOf_ofVectors _)
    have hle := hbound (gramSolve_exact exactElimination _) hcertain
    rw [hsum] at hle
    exact ⟨target, answer, fitted, htarget, hanswer, hcertain, hfitted, hle⟩
  · obtain ⟨p, hp⟩ : ∃ p, Problem.generate Ticks crossedRun = .ok p := by
      rw [Problem.generate_of_truth Nat.two_pos truthMixture_crossedRun,
        if_pos (by decide)]
      exact ⟨_, rfl⟩
    obtain ⟨run, hrun⟩ : ∃ run,
        (runWeights Ticks (gramSolve fun _ => none) crossedRun).result =
        .ok run := by
      rw [runWeights_of_generate hp, if_pos (by decide)]
      exact ⟨_, rfl⟩
    have hbound := hruns Ticks crossedRun run hrun (gramSolve_exact exactElimination _)
      (crossedRun_converged (runWeights_eq_ok_iff.mp hrun).1) fun v hv =>
        Real.mul_self_sqrt hv
    rw [show crossedRun.truthWeights.sum = 1 + 1 from hsum] at hbound
    exact ⟨run, hrun, hbound⟩

end ReachMixture
