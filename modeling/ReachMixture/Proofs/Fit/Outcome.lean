import ReachMixture.Proofs.Binary64
import ReachMixture.Proofs.Fit.Steps

/-!
# What comes of a fit

A fit that passes its checks can only end early for a few reasons. Whatever the
solver answers, whatever is drawn and however numbers are rounded, the weights
that a step starts from are proper ones, so that most of what could be refused
inside a step never is.

- `prune_eq`: `prune` refuses nothing but a wrong number of coefficients.
- `Sampling`, `sampleCandidates_spec`: what sampling around proper weights can
  lead to.
- `Fit.Halts`, `Fit.Halts.step_eq`, `Fit.step_eq_error_iff`: the reasons for a
  step not to complete, and that there are no others.
- `fitTable_of_shapes`: the fit of tables is `adaptiveFit` of their
  observations. `fitTable_outcome` says what comes of it.
-/

namespace ReachMixture

variable {α γ σ : Type} {m : Nat}

/-! ## Pruning -/

section Prune

variable [Zero α] [LT α] [DecidableLT α] [Scalar α]

theorem Component.checkWeights_eq_ok {components : List (Component α m)}
    (h : ∀ c ∈ components, IsWeight c.weight) (index : Nat) :
    Component.checkWeights index components = .ok ⟨h⟩ := by
  induction components generalizing index with
  | nil => rfl
  | cons c rest ih =>
    obtain ⟨hc, hrest⟩ := List.forall_mem_cons.mp h
    rw [checkWeights, dif_pos hc, ih hrest]
    rfl

/-- `checkWeights` fails with `badWeight` only. -/
theorem Component.checkWeights_eq_error
    {components : List (Component α m)} {index : Nat} {fault : Fault α}
    (h : Component.checkWeights index components = .error fault) : ∃ i weight,
    fault = .badWeight i weight := by
  induction components generalizing index with
  | nil => cases h
  | cons c rest ih =>
    rw [Component.checkWeights] at h
    split at h
    · cases hrest : Component.checkWeights (index + 1) rest with
      | error found =>
        rw [hrest] at h
        cases h
        exact ih hrest
      | ok proof =>
        rw [hrest] at h
        cases h
    · cases h
      exact ⟨index, c.weight, rfl⟩

theorem Mixture.ofComponents_eq_error {components : List (Component α m)}
    {fault : Fault α} (h : Mixture.ofComponents components = .error fault) :
    ∃ index weight, fault = .badWeight index weight := by
  unfold Mixture.ofComponents at h
  cases hcheck : Component.checkWeights 0 components with
  | error found =>
    rw [hcheck] at h
    cases h
    exact Component.checkWeights_eq_error hcheck
  | ok proof =>
    rw [hcheck] at h
    cases h

theorem Mixture.ofComponents_of_isWeight {components : List (Component α m)}
    (h : ∀ c ∈ components, IsWeight c.weight) :
    Mixture.ofComponents components = .ok ⟨components, h⟩ := by
  rw [Mixture.ofComponents, Component.checkWeights_eq_ok h]
  rfl

variable [LE α] [LawfulSigns α]

theorem isWeight_of_mem_filter {components : List (Component α m)} {c : Component α m}
    (h : c ∈ components.filter fun c => carriesWeight c.weight) : IsWeight c.weight := by
  have hcarries := (List.mem_filter.mp h).2
  rw [carriesWeight, Bool.and_eq_true, decide_eq_true_iff] at hcarries
  exact ⟨hcarries.1, LawfulSigns.not_neg_of_pos hcarries.2⟩

/-- **Pruning in one formula.** What is kept are proper weights, so only the
number of coefficients matters. -/
theorem prune_eq (pool : List (Vector α m)) (coefficients : List α) :
    prune pool coefficients =
      if coefficients.length = pool.length then
        .ok ⟨(List.zipWith Component.mk coefficients pool).filter
          fun c => carriesWeight c.weight, fun _ => isWeight_of_mem_filter⟩
      else .error (.shapeMismatch .solverOutput pool.length coefficients.length) := by
  unfold prune Component.zip
  split_ifs with hlength
  · exact Mixture.ofComponents_of_isWeight fun _ => isWeight_of_mem_filter
  · rfl

theorem prune_ne_badWeight (pool : List (Vector α m)) (coefficients : List α)
    (index : Nat) (weight : α) :
    prune pool coefficients ≠ .error (.badWeight index weight) := by
  intro h
  rw [prune_eq] at h
  split_ifs at h
  cases h

end Prune

/-! ## Sampling -/

section Sampling

variable [Zero α] [Add α] [Mul α] [LT α] [LE α] [DecidableLT α] [DecidableLE α]
  [Scalar α] [RandomSource γ α]

/-- What asking `sampleCandidates` for `count` candidates around proper weights
can lead to. -/
inductive Sampling (components : List (Component α m)) (count : Nat)
    (result : Except (Fault α) (List (Vector α m) × γ)) : Prop where
  /-- The candidates come back. There are none if there is no weight. -/
  | done (drawn : List (Vector α m) × γ) (h : result = .ok drawn)
      (hwhy : 0 < totalOf (components.map Component.weight) →
        Scalar.isFinite (totalOf (components.map Component.weight)) = true ∧
        count < Capacity.rows)
  /-- The weights have no finite sum. -/
  | unbounded (hpos : 0 < totalOf (components.map Component.weight))
      (hsum : Scalar.isFinite (totalOf (components.map Component.weight)) = false)
      (h : result = .error (.aborted .unboundedWeights))
  /-- There is no room for the candidates. -/
  | crowded (hpos : 0 < totalOf (components.map Component.weight))
      (hsum : Scalar.isFinite (totalOf (components.map Component.weight)) = true)
      (hcount : Capacity.rows ≤ count) (h : result = .error (.aborted .overCapacity))

theorem sampleCandidates_spec [LawfulSigns α] {components : List (Component α m)}
    (hweights : ∀ c ∈ components, 0 ≤ c.weight) (count : Nat) {sigma : α}
    (hsigma : isWidth sigma = true) (g : γ) :
    Sampling components count (sampleCandidates components count sigma g) := by
  unfold sampleCandidates
  rw [if_pos hsigma]
  cases components with
  | nil => exact .done _ rfl fun hpos => absurd hpos LawfulSigns.not_zero_neg
  | cons c rest =>
    have hall : ((c :: rest).all fun c => decide (0 ≤ c.weight)) = true :=
      List.all_eq_true.mpr fun c hc => decide_eq_true (hweights c hc)
    have htotal : (Picker.ofCons c rest).total =
        totalOf ((c :: rest).map Component.weight) :=
      rfl
    simp only [Picker.ofComponents, hall, if_true, htotal]
    -- weights are added up before room is made for the candidates
    by_cases hpos : 0 < totalOf ((c :: rest).map Component.weight)
    · simp only [hpos, decide_true, Bool.not_true, Bool.false_eq_true, if_false]
      cases hsum : Scalar.isFinite (totalOf ((c :: rest).map Component.weight)) with
      | false => exact .unbounded hpos hsum rfl
      | true =>
        by_cases hcount : Capacity.rows ≤ count
        · refine .crowded hpos hsum hcount ?_
          simp [hcount]
        · refine .done (drawCandidates (Picker.ofCons c rest) sigma count g) ?_ fun _ =>
            ⟨hsum, not_le.mp hcount⟩
          simp only [if_true, hcount, if_false]
    · simp only [hpos, decide_false, Bool.not_false, if_true]
      exact .done _ rfl fun h => absurd h hpos

/-- `sampleCandidates` around proper weights can be aborted, but it refuses
nothing. -/
theorem aborted_of_sampleCandidates [LawfulSigns α] {components : List (Component α m)}
    (hweights : ∀ c ∈ components, 0 ≤ c.weight) {count : Nat} {sigma : α}
    (hsigma : isWidth sigma = true) {g : γ} {fault : Fault α}
    (h : sampleCandidates components count sigma g = .error fault) :
    ∃ cause, fault = .aborted cause := by
  cases sampleCandidates_spec hweights count hsigma g with
  | done drawn hdrawn => exact nomatch h.symm.trans hdrawn
  | unbounded _ _ herror => exact ⟨_, Except.error.inj (h.symm.trans herror)⟩
  | crowded _ _ _ herror => exact ⟨_, Except.error.inj (h.symm.trans herror)⟩

end Sampling

/-! ## Settings -/

section Settings

variable [Zero α] [LT α] [DecidableLT α] [Scalar α]

theorem FitConfig.validate_eq_ok {config : FitConfig α} (h : config.validate = .ok ()) :
    0 < config.newCenters ∧ isWidth config.sigma = true ∧ 0 < config.maxSteps ∧
    0 < config.solverCap := by
  unfold FitConfig.validate at h
  split_ifs at h with hcenters hsigma hsteps hcap
  exact ⟨Nat.pos_of_ne_zero hcenters, by simpa using hsigma, Nat.pos_of_ne_zero hsteps,
    Nat.pos_of_ne_zero hcap⟩

variable [One α] [Add α] [Div α] [LE α] [DecidableLE α] [NatCast α]

omit [Zero α] [LT α] [DecidableLT α] [Scalar α] [Add α] [Div α] [LE α] [DecidableLE α]
  [NatCast α] in
/-- A fit starts at `initialLocations`, or at a single location of ones if it
has room. -/
theorem FitConfig.start_eq_ok_iff {config : FitConfig α} {dims : Nat} {t : Table α} :
    config.start dims = .ok t ↔ config.initialLocations = some t ∨
      config.initialLocations = none ∧ dims < Capacity.entries ∧
      Table.fill 1 dims 1 = t := by
  unfold FitConfig.start
  cases config.initialLocations with
  | some own => simp
  | none =>
    dsimp only
    rw [Capacity.reserve_bind_eq_ok_iff, pure_eq_ok_iff]
    simp

/-- A fit starts with equal shares of one at the rows of the table
`config.start`. -/
theorem FitConfig.components_initialMixture {config : FitConfig α} {dims : Nat}
    {start : Mixture α dims} (h : config.initialMixture dims = .ok start) :
    ∃ (t : Table α) (hcols : t.cols = dims), config.start dims = .ok t ∧ t.rows ≠ 0 ∧
      start.components = (t.vectorsOf hcols).toList.map fun location =>
        ⟨1 / (t.rows : α), location⟩ := by
  unfold FitConfig.initialMixture at h
  cases hstart : config.start dims with
  | error fault =>
    rw [hstart] at h
    cases h
  | ok t =>
    rw [hstart] at h
    simp only [bind, Except.bind] at h
    split_ifs at h with hcols hrows
    split at h
    · cases h
    · exact ⟨t, hcols, rfl, hrows, Mixture.ofComponents_eq_ok h⟩

/-- Without `initialLocations`, a fit starts with a single component. -/
theorem FitConfig.size_initialMixture {config : FitConfig α}
    (hnone : config.initialLocations = none) {dims : Nat} {start : Mixture α dims}
    (h : config.initialMixture dims = .ok start) :
    start.size = 1 := by
  obtain ⟨t, hcols, htable, -, hcomponents⟩ := FitConfig.components_initialMixture h
  rcases FitConfig.start_eq_ok_iff.mp htable with hown | ⟨-, -, rfl⟩
  · cases hnone.symm.trans hown
  · rw [Mixture.size, hcomponents, List.length_map]
    exact Vector.length_toList

/-- The start has at least one component. -/
theorem FitConfig.initialMixture_eq_ok {config : FitConfig α} {dims : Nat}
    {start : Mixture α dims} (h : config.initialMixture dims = .ok start) :
    ∃ first rest, start.components =
      (first :: rest).map fun location =>
        ⟨1 / ((rest.length + 1 : Nat) : α), location⟩ := by
  obtain ⟨t, hcols, -, hrows, hcomponents⟩ := FitConfig.components_initialMixture h
  have hlength : (t.vectorsOf hcols).toList.length = t.rows := Vector.length_toList
  cases hlist : (t.vectorsOf hcols).toList with
  | nil =>
    rw [hlist] at hlength
    exact absurd hlength.symm hrows
  | cons first rest =>
    rw [hlist] at hlength hcomponents
    refine ⟨first, rest, ?_⟩
    rw [hcomponents, ← hlength]
    rfl

omit [DecidableLT α] [DecidableLE α] in
/-- The weights of a mixture are zero or more. -/
theorem Mixture.weight_nonneg [LawfulWeights α] (x : Mixture α m) : ∀ c ∈ x.components,
    (0 : α) ≤ c.weight :=
  fun c hc => LawfulWeights.nonneg_of_not_neg (x.isWeight c hc).1 (x.isWeight c hc).2

/-- Settings with which a fit starts are valid. -/
theorem FitConfig.of_accepted {config : FitConfig α} {dims : Nat} {start : Mixture α dims}
    (h : config.validate *> config.initialMixture dims = .ok start) :
    config.validate = .ok () ∧ config.initialMixture dims = .ok start := by
  cases hvalid : config.validate with
  | error fault =>
    rw [hvalid] at h
    cases h
  | ok _ =>
    rw [hvalid] at h
    exact ⟨rfl, h⟩

/-- The weights that a fit starts with have a finite sum. -/
theorem FitConfig.isFinite_total_initialMixture [LawfulWeights α] {config : FitConfig α}
    {dims : Nat} {start : Mixture α dims} (h : config.initialMixture dims = .ok start) :
    Scalar.isFinite (totalOf start.weights) = true := by
  obtain ⟨first, rest, hcomponents⟩ := FitConfig.initialMixture_eq_ok h
  have hweights : start.weights = (1 / ((rest.length + 1 : Nat) : α)) ::
      List.replicate rest.length (1 / ((rest.length + 1 : Nat) : α)) := by
    rw [Mixture.weights, hcomponents, List.map_map, List.map_cons]
    exact congrArg _ List.map_const'
  rw [hweights]
  exact LawfulWeights.isFinite_shares rest.length

end Settings

/-! ## Steps -/

section Steps

variable [Zero α] [One α] [Add α] [Mul α] [Div α] [Neg α] [LT α] [LE α] [DecidableLT α]
  [DecidableLE α] [NatCast α]
variable [Scalar α] [RandomSource γ α]

namespace Fit

/-- `Halts o config solver i x g fault`: why step `i`, which begins with the
mixture `x` and the stream `g`, ends with `fault`. -/
inductive Halts (o : Observations α) (config : FitConfig α)
    (solver : LeastSquares.Solver α) (i : Nat) (x : Mixture α o.dims) (g : γ) :
    Fault α → Prop where
  /-- The weights that an earlier step has left do not have a finite sum. -/
  | unbounded (hlater : 0 < i) (hpos : 0 < totalOf x.weights)
      (hsum : Scalar.isFinite (totalOf x.weights) = false) :
      Halts o config solver i x g (.aborted .unboundedWeights)
  /-- There are weights to sample from, and more candidates are to be drawn than
  there can be room for. -/
  | crowded (hpos : 0 < totalOf x.weights)
      (hsum : Scalar.isFinite (totalOf x.weights) = true)
      (hcount : Capacity.rows ≤ config.newCenters) :
      Halts o config solver i x g (.aborted .overCapacity)
  /-- The candidates are drawn, but the pool has no room: its coordinates, its
  reach on the audiences or what the solver keeps are too much for a block. -/
  | cramped (h : Cramped o config solver x g) :
      Halts o config solver i x g (.aborted .overCapacity)
  /-- The solver does not answer with one coefficient for each location of the
  pool. -/
  | mismatch (candidates : List (Vector α o.dims)) (g' : γ)
      (hsample : sampleCandidates x.components config.newCenters config.sigma g =
        .ok (candidates, g'))
      (hroom : o.HasRoom solver (x.locations ++ candidates).length)
      (hlength : (solver.solve
          (o.design (x.locations ++ candidates))).coefficients.length ≠
        (x.locations ++ candidates).length) :
      Halts o config solver i x g
        (.shapeMismatch .solverOutput (x.locations ++ candidates).length
        (solver.solve (o.design (x.locations ++ candidates))).coefficients.length)

omit [One α] [Div α] [NatCast α] in
/-- A step whose candidates cannot be drawn ends with the fault of
`sampleCandidates`. -/
theorem step_of_sample_error {o : Observations α} {config : FitConfig α}
    {x : Mixture α o.dims} {g : γ} {fault : Fault α}
    (h : sampleCandidates x.components config.newCenters config.sigma g = .error fault)
    (solver : LeastSquares.Solver α) (i : Nat) :
    step o config solver i x g = .error fault := by
  unfold step
  rw [h]
  rfl

omit [One α] [Div α] [NatCast α] in
/-- A step that has drawn its candidates fails for want of room, or in `prune`. -/
theorem step_eq_error_iff_of_sample {o : Observations α} {config : FitConfig α}
    {solver : LeastSquares.Solver α} {i : Nat} {x : Mixture α o.dims} {g g' : γ}
    {candidates : List (Vector α o.dims)} {fault : Fault α}
    (hsample : sampleCandidates x.components config.newCenters config.sigma g =
      .ok (candidates, g')) :
    step o config solver i x g = .error fault ↔
      fault = .aborted .overCapacity ∧
          ¬ o.HasRoom solver (x.locations ++ candidates).length ∨
        o.HasRoom solver (x.locations ++ candidates).length ∧
          prune (x.locations ++ candidates)
            (solver.solve (o.design (x.locations ++ candidates))).coefficients =
              .error fault := by
  unfold step
  rw [hsample]
  constructor
  · intro h
    rcases Capacity.reserve_bind_eq_error_iff.mp h with ⟨hpool, rfl⟩ | ⟨hpool, h⟩
    · exact .inl ⟨rfl, fun hroom => absurd hroom.pool hpool.not_gt⟩
    rcases bind_eq_error_iff.mp h with h | ⟨solution, hsolve, h⟩
    · obtain ⟨rfl, hblocks⟩ := Observations.solveWeights_eq_error_iff.mp h
      exact .inl ⟨rfl, fun hroom => hblocks ⟨hroom.reach, hroom.solver⟩⟩
    · obtain ⟨hreach, hkept, rfl⟩ := Observations.solveWeights_eq_ok_iff.mp hsolve
      rcases bind_eq_error_iff.mp h with h | ⟨next, -, h⟩
      · exact .inr ⟨⟨hpool, hreach, hkept⟩, h⟩
      · cases h
  · rintro (⟨rfl, hroom⟩ | ⟨hroom, hprune⟩)
    · -- the block of the pool is asked for first, those of the solve behind it
      refine Capacity.reserve_bind_eq_error_iff.mpr ?_
      by_cases hpool : (x.locations ++ candidates).length * o.dims < Capacity.entries
      · refine .inr ⟨hpool, bind_eq_error_iff.mpr (.inl ?_)⟩
        exact Observations.solveWeights_eq_error_iff.mpr
          ⟨rfl, fun hblocks => hroom ⟨hpool, hblocks.1, hblocks.2⟩⟩
      · exact .inl ⟨not_lt.mp hpool, rfl⟩
    · exact Capacity.reserve_bind_eq_error_iff.mpr (.inr ⟨hroom.pool,
        bind_eq_error_iff.mpr (.inr ⟨_, hroom.solveWeights,
          bind_eq_error_iff.mpr (.inl hprune)⟩)⟩)

variable [LawfulWeights α]

/-- A step with a reason to halt fails for that reason. -/
theorem Halts.step_eq {o : Observations α} {config : FitConfig α}
    (hsigma : isWidth config.sigma = true) {i : Nat} {x : Mixture α o.dims}
    {solver : LeastSquares.Solver α} {g : γ} {fault : Fault α}
    (h : Halts o config solver i x g fault) :
    step o config solver i x g = .error fault := by
  have hsampling := sampleCandidates_spec x.weight_nonneg config.newCenters hsigma g
  cases h with
  | unbounded _ hpos hsum =>
    cases hsampling with
    | done _ _ hwhy => exact nomatch (hwhy hpos).1.symm.trans hsum
    | unbounded _ _ h => exact step_of_sample_error h solver i
    | crowded _ hfinite => exact nomatch hfinite.symm.trans hsum
  | crowded hpos hsum hcount =>
    cases hsampling with
    | done _ _ hwhy => exact absurd hcount (hwhy hpos).2.not_ge
    | unbounded _ hinfinite => exact nomatch hinfinite.symm.trans hsum
    | crowded _ _ _ h => exact step_of_sample_error h solver i
  | cramped h =>
    obtain ⟨_, _, hsample, hroom⟩ := h
    exact (step_eq_error_iff_of_sample hsample).mpr (.inl ⟨rfl, hroom⟩)
  | mismatch _ _ hsample hroom hlength =>
    refine (step_eq_error_iff_of_sample hsample).mpr (.inr ⟨hroom, ?_⟩)
    rw [prune_eq, if_neg hlength]

/-- **Why a step does not complete.** With proper settings there are no reasons
but those of `Halts`. -/
theorem step_eq_error_iff {o : Observations α} {config : FitConfig α}
    (hsigma : isWidth config.sigma = true) {i : Nat} {x : Mixture α o.dims}
    (hfirst : i = 0 → Scalar.isFinite (totalOf x.weights) = true)
    (solver : LeastSquares.Solver α) (g : γ) (fault : Fault α) :
    step o config solver i x g = .error fault ↔ Halts o config solver i x g fault := by
  refine ⟨fun h => ?_, Halts.step_eq hsigma⟩
  cases sampleCandidates_spec x.weight_nonneg config.newCenters hsigma g with
  | unbounded hpos hsum hsample =>
    cases h.symm.trans (step_of_sample_error hsample solver i)
    refine .unbounded (Nat.pos_of_ne_zero fun hzero => ?_) hpos hsum
    exact nomatch hsum.symm.trans (hfirst hzero)
  | crowded hpos hsum hcount hsample =>
    cases h.symm.trans (step_of_sample_error hsample solver i)
    exact .crowded hpos hsum hcount
  | done drawn hsample =>
    obtain ⟨candidates, g'⟩ := drawn
    rcases (step_eq_error_iff_of_sample hsample).mp h with ⟨rfl, hroom⟩ | ⟨hroom, hprune⟩
    · exact .cramped ⟨candidates, g', hsample, hroom⟩
    · rw [prune_eq] at hprune
      split_ifs at hprune with hlength
      cases hprune
      exact .mismatch candidates g' hsample hroom hlength

end Fit

/-! ## Whole fits -/

omit [Mul α] [Neg α] in
/-- `checkedStart` passes iff `Observations.ofTable`, `validate` and
`initialMixture` do. -/
theorem checkedStart_eq_ok_iff {signal : Table α} {target : List α} {config : FitConfig α}
    {o : Observations α} {start : Mixture α o.dims} :
    checkedStart signal target config = .ok ⟨o, start⟩ ↔
      Observations.ofTable signal target = .ok o ∧
        config.validate *> config.initialMixture o.dims = .ok start := by
  rw [checkedStart, bind_eq_ok_iff]
  constructor
  · rintro ⟨o', hshapes, h⟩
    obtain ⟨start', hstart, h⟩ := bind_eq_ok_iff.mp h
    cases h
    exact ⟨hshapes, hstart⟩
  · rintro ⟨hshapes, hstart⟩
    exact ⟨o, hshapes, bind_eq_ok_iff.mpr ⟨start, hstart, rfl⟩⟩

section Tables

variable {signal : Table α} {target : List α} (config : FitConfig α)
variable (solver : Nat → LeastSquares.Solver α) (g : γ)
  (observe : (m : Nat) → σ → Snapshot α m → σ)
variable (seen : σ)

/-- Tables and settings that `checkedStart` refuses are refused before the first
step. -/
theorem fitTable_refused {config : FitConfig α} {fault : Fault α}
    (h : checkedStart signal target config = .error fault) :
    fitTable signal target config solver g observe seen =
      ⟨signal.cols, .error fault, seen, g, 0⟩ := by
  rw [fitTable, h]

/-- **The fit of tables** is the fit of their observations. -/
theorem fitTable_of_shapes {o : Observations α}
    (h : Observations.ofTable signal target = .ok o) :
    fitTable signal target config solver g observe seen =
      ⟨o.dims, adaptiveFit o config solver g (observe o.dims) seen⟩ := by
  cases hstart : config.validate *> config.initialMixture o.dims with
  | error fault =>
    have hrefused : checkedStart signal target config = .error fault := by
      rw [checkedStart, h]
      exact bind_eq_error_iff.mpr (.inr ⟨o, rfl, bind_eq_error_iff.mpr (.inl hstart)⟩)
    rw [fitTable_refused solver g observe seen hrefused, adaptiveFit_refused hstart,
      Observations.dims_of_ofTable h]
  | ok start => rw [fitTable, checkedStart_eq_ok_iff.mpr ⟨h, hstart⟩, adaptiveFit, hstart]

end Tables

variable [LawfulWeights α]

/-- **What comes of a fit.** If `checkedStart` refuses the shapes, the settings
or the start, that is its result; nothing has been drawn or observed then, and
no solver has been asked. Otherwise all `maxSteps` steps complete, and the
result is the mixture of the last one, unless a step `Halts`: because the
weights left by an earlier step do not have a finite sum, because there is no
room for as many candidates or for the pool, or because the solver answers with
a wrong number of coefficients. The step that halts is the one behind the
completed steps, and the observer has seen only these. `sampleCandidates`
refuses nothing inside a fit, it can only be aborted, and `prune` never finds a
weight that is none. -/
theorem fitTable_outcome (signal : Table α) (target : List α) (config : FitConfig α)
    (solver : Nat → LeastSquares.Solver α) (g : γ)
    (observe : (m : Nat) → σ → Snapshot α m → σ) (seen : σ) :
    (∀ fault, checkedStart signal target config = .error fault →
      ∃ m, fitTable signal target config solver g observe seen =
        ⟨m, .error fault, seen, g, 0⟩) ∧
    (∀ o start, checkedStart signal target config = .ok ⟨o, start⟩ →
      ∃ (steps : List (Snapshot α o.dims)) (stream : Nat → γ)
        (r : FitOutcome α γ σ o.dims),
        steps = completedSteps o config solver g ∧
        fitTable signal target config solver g observe seen = ⟨o.dims, r⟩ ∧
        r.observed = steps.foldl (observe o.dims) seen ∧
        stream 0 = g ∧ stream steps.length = r.stream ∧ steps.length ≤ config.maxSteps ∧
        (∀ y, r.result = .ok y ↔
          steps.length = config.maxSteps ∧
          (start :: steps.map Snapshot.mixture).getLast? = some y) ∧
        ∀ i x, (start :: steps.map Snapshot.mixture)[i]? = some x → i < config.maxSteps →
          (∀ s, steps[i]? = some s →
            Fit.step o config (solver i) i x (stream i) = .ok (s, stream (i + 1))) ∧
          (∀ fault, Fit.Halts o config (solver i) i x (stream i) fault ↔
            i = steps.length ∧ r.result = .error fault) ∧
          ∀ fault, sampleCandidates x.components config.newCenters config.sigma
              (stream i) = .error fault →
            ∃ cause, fault = .aborted cause) ∧
    ∀ (m : Nat) (pool : List (Vector α m)) (coefficients : List α)
      (index : Nat) (weight : α),
      prune pool coefficients ≠ .error (.badWeight index weight) := by
  refine ⟨fun fault h => ?_, fun o start h => ?_, fun m => prune_ne_badWeight⟩
  · exact ⟨_, fitTable_refused solver g observe seen h⟩
  · obtain ⟨hshapes, hstart⟩ := checkedStart_eq_ok_iff.mp h
    obtain ⟨hvalid, hinitial⟩ := FitConfig.of_accepted hstart
    have hsigma := (FitConfig.validate_eq_ok hvalid).2.1
    obtain ⟨stream, result, hfirst, hcount, houtcome, hresult, hsteps⟩ :=
      adaptiveFit_steps hstart solver g
    obtain ⟨capped, hrun⟩ := houtcome (observe o.dims) seen
    have hfit := fitTable_of_shapes config solver g observe seen hshapes
    rw [hrun] at hfit
    refine ⟨_, stream, _, rfl, hfit, rfl, hfirst, rfl, hcount, hresult,
      fun i x hx hi => ?_⟩
    obtain ⟨hok, herror⟩ := hsteps i x hx hi
    -- the weights of the start are shares of one
    have hfinite : i = 0 → Scalar.isFinite (totalOf x.weights) = true := by
      rintro rfl
      cases hx
      exact FitConfig.isFinite_total_initialMixture hinitial
    refine ⟨fun s hs => (hok s _).mpr ⟨hs, rfl⟩, fun fault => ?_, fun fault => ?_⟩
    · rw [← Fit.step_eq_error_iff hsigma hfinite]
      exact herror fault
    · exact aborted_of_sampleCandidates x.weight_nonneg hsigma

end Steps

/-- A solver that answers with `v` for each column. -/
def constantSolver (v : Float) : LeastSquares.Solver Float where
  solve {_ k} _ :=
    { coefficients := List.replicate k v, residual := 0.0, iterations := 0,
      converged := false }

/-- The observations of `singleAudience`, half of which is reached. -/
def singleObservations : Observations Float :=
  ⟨1, 1, singleAudience.vectors, #v[0.5], Nat.one_pos, Nat.one_pos⟩

/-- The first step keeps two weights of `1e308`, which are too large to be added
up, and the second step halts. -/
theorem fitTable_outcome_overflow :
    ∃ start, checkedStart singleAudience [0.5] shortSearch =
        .ok ⟨singleObservations, start⟩ ∧
      ∃ r, fitTable singleAudience [0.5] shortSearch (fun _ => constantSolver 1e308)
          shortDraws (fun _ count _ => count + 1) 0 = ⟨1, r⟩ ∧
        r.observed = 1 ∧ r.result = .error (.aborted .unboundedWeights) := by
  have hok : (shortSearch.validate *> shortSearch.initialMixture 1).toOption.any
      (fun _ => true) = true := by
    decide +kernel
  obtain ⟨start, hstart, -⟩ := exists_ok_of_any hok
  have hchecked : checkedStart singleAudience [0.5] shortSearch =
      .ok ⟨singleObservations, start⟩ :=
    checkedStart_eq_ok_iff.mpr ⟨rfl, hstart⟩
  obtain ⟨-, haccepted, -⟩ := fitTable_outcome singleAudience [0.5] shortSearch
    (fun _ => constantSolver 1e308) shortDraws (fun _ count _ => count + 1) 0
  obtain ⟨steps, stream, r, hsteps, hfit, hobserved, -, -, -, -, hhalts⟩ :=
    haccepted _ _ hchecked
  have hlength :
      (completedSteps singleObservations shortSearch (fun _ => constantSolver 1e308)
        shortDraws).length = 1 := by
    decide +kernel
  have hsum : ∀ s ∈ completedSteps singleObservations shortSearch
      (fun _ => constantSolver 1e308) shortDraws, 0 < totalOf s.mixture.weights ∧
        Scalar.isFinite (totalOf s.mixture.weights) = false := by
    decide +kernel
  rw [← hsteps] at hlength hsum
  obtain ⟨s, rfl⟩ := List.length_eq_one_iff.mp hlength
  obtain ⟨hpos, hinfinite⟩ := hsum s (List.mem_singleton_self s)
  have hresult := ((hhalts 1 s.mixture rfl (by decide)).2.1 _).mp
    (.unbounded Nat.one_pos hpos hinfinite)
  exact ⟨start, hchecked, r, hfit, hobserved, hresult.2⟩

/-- A single step with `2 ^ 64 - 1` candidates. -/
def crowdedSearch : FitConfig Float :=
  { shortSearch with newCenters := 2 ^ 64 - 1, maxSteps := 1 }

/-- Room is made for all candidates before the first one is drawn. So
`crowdedSearch` is aborted in its first step, although the weights have a finite
sum and the solver answers with one coefficient for each location. -/
theorem fitTable_crowded :
    ∃ start, checkedStart singleAudience [0.5] crowdedSearch =
        .ok ⟨singleObservations, start⟩ ∧
      Scalar.isFinite (totalOf start.weights) = true ∧
      (∀ {n k : Nat} (d : LeastSquares.Design Float n k),
        ((constantSolver 0.0).solve d).coefficients.length = k) ∧
      ∃ r, fitTable singleAudience [0.5] crowdedSearch (fun _ => constantSolver 0.0)
          shortDraws (fun _ count _ => count + 1) 0 = ⟨1, r⟩ ∧
        r.observed = 0 ∧ r.result = .error (.aborted .overCapacity) := by
  have hok : (crowdedSearch.validate *>
      crowdedSearch.initialMixture 1).toOption.any (fun x =>
      decide (0 < totalOf x.weights) && Scalar.isFinite (totalOf x.weights)) = true := by
    decide +kernel
  obtain ⟨start, hstart, hsum⟩ := exists_ok_of_any hok
  rw [Bool.and_eq_true, decide_eq_true_iff] at hsum
  have hstep : Fit.step singleObservations crowdedSearch (constantSolver 0.0)
      0 start shortDraws =
      .error (.aborted .overCapacity) :=
    (Fit.step_eq_error_iff (by decide +kernel) (fun _ => hsum.2) _ _ _).mpr
      (.crowded hsum.1 hsum.2 (by decide))
  have hshapes : Observations.ofTable singleAudience [0.5] = .ok singleObservations := rfl
  refine ⟨start, checkedStart_eq_ok_iff.mpr ⟨hshapes, hstart⟩, hsum.2,
    fun _ => List.length_replicate, _, fitTable_of_shapes _ _ _ _ _ hshapes, ?_⟩
  have hrun : adaptiveFit singleObservations crowdedSearch
      (fun _ => constantSolver 0.0) shortDraws (fun count _ => count + 1) 0 =
      ⟨.error (.aborted .overCapacity), 0, shortDraws, 0⟩ := by
    rw [adaptiveFit, show crowdedSearch.validate *>
      crowdedSearch.initialMixture singleObservations.dims = _ from hstart]
    simp only [show crowdedSearch.maxSteps = 1 from rfl, Fit.run, hstep]
  exact ⟨congrArg FitOutcome.observed hrun, congrArg FitOutcome.result hrun⟩

end ReachMixture
