import Mathlib
import ReachMixture.Fit.Adaptive
import ReachMixture.Proofs.Fit.Room

/-!
# Steps of adaptive fits

What one step of a fit does to its mixture, and how whole fits are made of
steps. Nothing is asked of the solver, of the random stream or of the
arithmetic.

- `prune_eq_ok`, `Fit.step_eq_ok_iff`: everything a completed step says about
  its mixture.
- `Fit.Trace`: steps that complete one after another. `Fit.run_outcome` says
  that a run is such a trace, and `Fit.Trace.invariant` that what every step
  preserves holds along it.
- `completedSteps`: the snapshots of a fit's completed steps.
  `adaptiveFit_outcome` says how they tell what comes of the fit.
- `adaptiveFit_pairs`: after every completed step the mixture has exactly the
  pooled locations whose coefficients are finite and positive, each with its own
  coefficient as weight.
-/

namespace ReachMixture

variable {α γ σ : Type} {m : Nat}

/-- Observations have the columns of the signal. -/
theorem Observations.dims_of_ofTable {signal : Table α} {target : List α}
    {o : Observations α} (h : Observations.ofTable signal target = .ok o) :
    o.dims = signal.cols := by
  unfold Observations.ofTable at h
  split at h
  · split at h
    · cases h
      rfl
    · cases h
  · cases h

/-! ## Pruned mixtures -/

section Prune

variable [Zero α] [LT α] [DecidableLT α] [Scalar α]

theorem Mixture.ofComponents_eq_ok {components : List (Component α m)} {x : Mixture α m}
    (h : Mixture.ofComponents components = .ok x) : x.components = components := by
  unfold Mixture.ofComponents at h
  cases hcheck : Component.checkWeights 0 components with
  | error fault =>
    rw [hcheck] at h
    cases h
  | ok proof =>
    rw [hcheck] at h
    cases h
    rfl

/-- `prune` keeps the components of the pool that `carriesWeight`, and there was
a coefficient for each location. -/
theorem prune_eq_ok {pool : List (Vector α m)} {coefficients : List α} {x : Mixture α m}
    (h : prune pool coefficients = .ok x) :
    coefficients.length = pool.length ∧ x.components =
      (List.zipWith Component.mk coefficients pool).filter fun c =>
        carriesWeight c.weight := by
  unfold prune Component.zip at h
  by_cases hlength : coefficients.length = pool.length
  · rw [if_pos hlength] at h
    exact ⟨hlength, Mixture.ofComponents_eq_ok h⟩
  · rw [if_neg hlength] at h
    cases h

omit [Zero α] [LT α] [DecidableLT α] [Scalar α] in
/-- Components as pairs of weights and locations. -/
theorem map_zipWith_component (coefficients : List α) (pool : List (Vector α m)) :
    (List.zipWith Component.mk coefficients pool).map (fun c => (c.weight, c.location)) =
      coefficients.zip pool := by
  rw [List.map_zipWith, List.zip]

omit [Zero α] [LT α] [DecidableLT α] [Scalar α] in
/-- `Component.zip` succeeds with the components that have these weights and
locations. -/
theorem Component.zip_eq_ok_iff (part : Part) {weights : List α}
    {locations : List (Vector α m)} {components : List (Component α m)} :
    Component.zip part weights locations = .ok components ↔
      components.map Component.weight = weights ∧
      components.map Component.location = locations := by
  constructor
  · intro h
    unfold Component.zip at h
    split_ifs at h with hlength
    cases h
    have hpairs := map_zipWith_component weights locations
    constructor
    · exact (List.map_map (g := Prod.fst)).symm.trans
        (hpairs ▸ List.map_fst_zip hlength.le)
    · exact (List.map_map (g := Prod.snd)).symm.trans
        (hpairs ▸ List.map_snd_zip hlength.ge)
  · rintro ⟨rfl, rfl⟩
    rw [Component.zip, if_pos (by rw [List.length_map, List.length_map]),
      List.zipWith_map, List.zipWith_self, List.map_id'' fun _ => rfl]

omit [Zero α] [LT α] [DecidableLT α] [Scalar α] in
theorem Component.zipTable_eq_zip (part : Part) (weights : List α) (locations : Table α) :
    Component.zipTable part weights locations =
      Component.zip part weights locations.rowList := by
  have hlength : locations.rowList.length = locations.rows := Vector.length_toList
  rw [Component.zipTable, Component.zip, hlength]

omit [DecidableLT α] in
theorem Mixture.length_weights (x : Mixture α m) :
    x.weights.length = x.locations.length :=
  (List.length_map _).trans (List.length_map _).symm

omit [DecidableLT α] in
theorem Mixture.zip_weights_locations (x : Mixture α m) :
    x.weights.zip x.locations = x.components.map fun c => (c.weight, c.location) :=
  List.zip_map' ..

omit [DecidableLT α] in
/-- A mixture can be put together again from its `weights` and `locations`. -/
theorem Mixture.zipWith_weights_locations (x : Mixture α m) :
    List.zipWith Component.mk x.weights x.locations = x.components := by
  rw [weights, locations, List.zipWith_map, List.zipWith_self, List.map_id'']
  exact fun _ => rfl

/-- The pairs of weight and location that `prune` leaves are the pairs of
coefficient and pooled location whose coefficient is finite and positive, in
pool order. -/
theorem zip_of_prune {pool : List (Vector α m)} {coefficients : List α} {x : Mixture α m}
    (h : prune pool coefficients = .ok x) :
    x.weights.zip x.locations =
      (coefficients.zip pool).filter fun p => Scalar.isFinite p.1 &&
        decide (0 < p.1) := by
  rw [x.zip_weights_locations, (prune_eq_ok h).2,
    ← map_zipWith_component, List.filter_map]
  rfl

/-- The weights that `prune` leaves are finite and positive. -/
theorem weight_of_prune {pool : List (Vector α m)} {coefficients : List α}
    {x : Mixture α m} (h : prune pool coefficients = .ok x) {w : α} (hw : w ∈ x.weights) :
    Scalar.isFinite w = true ∧ 0 < w := by
  rw [Mixture.weights, (prune_eq_ok h).2] at hw
  obtain ⟨c, hc, rfl⟩ := List.mem_map.mp hw
  have hcarries := (List.mem_filter.mp hc).2
  rwa [carriesWeight, Bool.and_eq_true, decide_eq_true_iff] at hcarries

/-- The locations that `prune` leaves are some of the pool, in the same order. -/
theorem locations_sublist_of_prune {pool : List (Vector α m)} {coefficients : List α}
    {x : Mixture α m} (h : prune pool coefficients = .ok x) :
    x.locations.Sublist pool := by
  have hpool : (coefficients.zip pool).map Prod.snd = pool :=
    List.map_snd_zip (prune_eq_ok h).1.ge
  have hkept : (x.weights.zip x.locations).map Prod.snd = x.locations :=
    List.map_snd_zip x.length_weights.ge
  rw [← hpool, ← hkept, zip_of_prune h]
  exact List.filter_sublist.map Prod.snd

end Prune

/-! ## Candidates -/

section Candidates

variable [Zero α] [Add α] [Mul α] [LT α] [LE α] [DecidableLT α]
  [DecidableLE α] [RandomSource γ α]

theorem drawCandidates_length_le (p : Picker α m) (sigma : α) (count : Nat) (g : γ) :
    (drawCandidates p sigma count g).1.length ≤ count := by
  induction count generalizing g with
  | zero => exact le_rfl
  | succ count ih =>
    rw [drawCandidates]
    dsimp only
    split
    · exact Nat.succ_le_succ (ih _)
    · exact (ih _).trans (Nat.le_succ count)

/-- No more candidates come back than were asked for. -/
theorem sampleCandidates_length_le [Scalar α] {components : List (Component α m)}
    {count : Nat} {sigma : α} {g g' : γ} {candidates : List (Vector α m)}
    (h : sampleCandidates components count sigma g = .ok (candidates, g')) :
    candidates.length ≤ count := by
  unfold sampleCandidates at h
  split at h
  · split at h
    · cases h
    · cases h
      exact Nat.zero_le count
    · rename_i p _
      split at h
      · cases h
      · have hdrawn := drawCandidates_length_le p sigma count g
        rw [Except.ok.inj h] at hdrawn
        exact hdrawn
  · cases h

end Candidates

/-! ## Steps and traces -/

section Fit

variable [Zero α] [Add α] [Mul α] [Neg α] [LT α] [LE α] [DecidableLT α]
  [DecidableLE α] [Scalar α]
variable [RandomSource γ α]

namespace Fit

/-- **A step completes** iff candidates can be drawn, their pool with the
locations has room, and the pool can be pruned with the solver's coefficients.
That is all it reports on. -/
theorem step_eq_ok_iff {o : Observations α} {config : FitConfig α}
    {solver : LeastSquares.Solver α} {i : Nat} {x : Mixture α o.dims} {g g' : γ}
    {s : Snapshot α o.dims} :
    step o config solver i x g = .ok (s, g') ↔
      ∃ candidates next,
        sampleCandidates x.components config.newCenters config.sigma g =
          .ok (candidates, g') ∧
        o.HasRoom solver (x.locations ++ candidates).length ∧
        prune (x.locations ++ candidates)
          (solver.solve (o.design (x.locations ++ candidates))).coefficients = .ok next ∧
        s = { step := i
              mixture := next
              accepted := candidates.length
              residual := (solver.solve (o.design (x.locations ++ candidates))).residual
              converged :=
                (solver.solve (o.design (x.locations ++ candidates))).converged } := by
  unfold step
  constructor
  · intro h
    obtain ⟨⟨candidates, g₁⟩, hsample, h⟩ := bind_eq_ok_iff.mp h
    obtain ⟨hpool, h⟩ := Capacity.reserve_bind_eq_ok_iff.mp h
    obtain ⟨solution, hsolve, h⟩ := bind_eq_ok_iff.mp h
    obtain ⟨hreach, hkept, rfl⟩ := Observations.solveWeights_eq_ok_iff.mp hsolve
    obtain ⟨next, hprune, h⟩ := bind_eq_ok_iff.mp h
    cases h
    exact ⟨candidates, next, hsample, ⟨hpool, hreach, hkept⟩, hprune, rfl⟩
  · rintro ⟨candidates, next, hsample, hroom, hprune, rfl⟩
    exact bind_eq_ok_iff.mpr ⟨_, hsample, Capacity.reserve_bind_eq_ok_iff.mpr ⟨hroom.pool,
      bind_eq_ok_iff.mpr ⟨_, hroom.solveWeights, bind_eq_ok_iff.mpr ⟨next, hprune, rfl⟩⟩⟩⟩

/-- The part of `step_eq_ok_iff` that is about the mixture: it is what `prune`
leaves of the pool. -/
theorem step_eq_ok {o : Observations α} {config : FitConfig α}
    {solver : LeastSquares.Solver α} {i : Nat} {x : Mixture α o.dims} {g g' : γ}
    {s : Snapshot α o.dims} (h : step o config solver i x g = .ok (s, g')) :
    ∃ candidates,
      sampleCandidates x.components config.newCenters config.sigma g =
        .ok (candidates, g') ∧
      prune (x.locations ++ candidates)
        (solver.solve (o.design (x.locations ++ candidates))).coefficients =
          .ok s.mixture := by
  obtain ⟨candidates, next, hsample, -, hprune, rfl⟩ := step_eq_ok_iff.mp h
  exact ⟨candidates, hsample, hprune⟩

/-- A step leaves at most `newCenters` components more than it begins with. -/
theorem size_step_le {o : Observations α} {config : FitConfig α}
    {solver : LeastSquares.Solver α} {i : Nat} {x : Mixture α o.dims} {g g' : γ}
    {s : Snapshot α o.dims} (h : step o config solver i x g = .ok (s, g')) :
    s.mixture.size ≤ x.size + config.newCenters := by
  obtain ⟨candidates, hsample, hprune⟩ := step_eq_ok h
  calc s.mixture.size = s.mixture.locations.length := (List.length_map _).symm
    _ ≤ (x.locations ++ candidates).length :=
      (locations_sublist_of_prune hprune).length_le
    _ = x.size + candidates.length := by
        rw [List.length_append, Mixture.locations, List.length_map, Mixture.size]
    _ ≤ x.size + config.newCenters :=
        Nat.add_le_add_left (sampleCandidates_length_le hsample) _

/-- `Cramped o config solver x g`: a step that begins with `x` and `g` draws its
candidates, but their pool with the locations of `x` has no room. -/
def Cramped (o : Observations α) (config : FitConfig α) (solver : LeastSquares.Solver α)
    (x : Mixture α o.dims) (g : γ) : Prop :=
  ∃ candidates g',
    sampleCandidates x.components config.newCenters config.sigma g =
      .ok (candidates, g') ∧
    ¬ o.HasRoom solver (x.locations ++ candidates).length

omit [Neg α] in
/-- With `activeSet`, a step is not `Cramped` if a pool with all candidates that
are asked for would have room. -/
theorem not_cramped [One α] [Sub α] [Div α] [NatCast α] {o : Observations α}
    {config : FitConfig α} {inner : LeastSquares.PassiveSolve α} {cap : Nat}
    {x : Mixture α o.dims}
    (h : o.HasRoom (LeastSquares.activeSet inner cap) (x.size + config.newCenters))
    (g : γ) :
    ¬ Cramped o config (LeastSquares.activeSet inner cap) x g := by
  rintro ⟨candidates, g', hsample, hroom⟩
  refine hroom (h.mono ?_)
  rw [List.length_append, Mixture.locations, List.length_map]
  exact Nat.add_le_add_left (sampleCandidates_length_le hsample) _

/-- `Trace o config solver i x g l y g'`: the steps `i`, `i + 1`, … complete one
after another. They begin with `x` and `g`, report the snapshots `l`, and end
with `y` and `g'`. -/
inductive Trace (o : Observations α) (config : FitConfig α)
    (solver : Nat → LeastSquares.Solver α) :
    (i : Nat) → (x : Mixture α o.dims) → (g : γ) → List (Snapshot α o.dims) →
    Mixture α o.dims → γ → Prop where
  | nil (i : Nat) (x : Mixture α o.dims) (g : γ) : Trace o config solver i x g [] x g
  | cons {i : Nat} {x y : Mixture α o.dims} {g g' g'' : γ} {s : Snapshot α o.dims}
      {rest : List (Snapshot α o.dims)} (h : step o config (solver i) i x g = .ok (s, g'))
      (hrest : Trace o config solver (i + 1) s.mixture g' rest y g'') :
      Trace o config solver i x g (s :: rest) y g''

variable {o : Observations α} {config : FitConfig α}
  {solver : Nat → LeastSquares.Solver α}

variable (o config solver) in
/-- **A run is a trace**: it completes all its steps, or it ends with the fault
of the step behind those that it completed. Whoever observes it sees the
completed steps in order and changes nothing else. By induction on `remaining`. -/
theorem run_outcome (remaining i : Nat) (x : Mixture α o.dims) (g : γ) :
    ∃ l y g' result, Trace o config solver i x g l y g' ∧
      (result = .ok y ∧ l.length = remaining ∨ ∃ fault, result = .error fault ∧
          l.length < remaining ∧
        step o config (solver (i + l.length)) (i + l.length) y g' = .error fault) ∧
      ∀ {σ : Type} (observe : σ → Snapshot α o.dims → σ) (seen : σ) (capped : Nat),
        ∃ capped',
        run o config solver observe remaining i x g seen capped =
          ⟨result, l.foldl observe seen, g', capped'⟩ := by
  induction remaining generalizing i x g with
  | zero =>
    exact ⟨[], x, g, .ok x, .nil i x g, .inl ⟨rfl, rfl⟩, fun _ _ capped => ⟨capped, rfl⟩⟩
  | succ remaining ih =>
    -- a fault ends the run here; otherwise the step is the first of the trace
    cases hstep : step o config (solver i) i x g with
    | error fault =>
      refine ⟨[], x, g, .error fault, .nil i x g,
        .inr ⟨fault, rfl, Nat.succ_pos remaining, hstep⟩, ?_⟩
      intro σ observe seen capped
      exact ⟨capped, by rw [run, hstep]; rfl⟩
    | ok next =>
      obtain ⟨s, g₁⟩ := next
      obtain ⟨l, y, g', result, htrace, hresult, hrun⟩ := ih (i + 1) s.mixture g₁
      refine ⟨s :: l, y, g', result, .cons hstep htrace, ?_, ?_⟩
      · rw [List.length_cons, ← Nat.add_assoc, Nat.add_right_comm]
        rcases hresult with ⟨hok, hlength⟩ | ⟨fault, herror, hlength, hlast⟩
        · exact .inl ⟨hok, congrArg Nat.succ hlength⟩
        · exact .inr ⟨fault, herror, Nat.succ_lt_succ hlength, hlast⟩
      · intro σ observe seen capped
        rw [run, hstep]
        exact hrun observe (observe seen s) _

/-- **A run goes on behind a trace**: the steps of the trace are taken and
observed, and the rest of the run begins where the trace ends. By induction on
the trace. -/
theorem Trace.run {i : Nat} {x y : Mixture α o.dims} {g g' : γ}
    {l : List (Snapshot α o.dims)} (h : Trace o config solver i x g l y g')
    (observe : σ → Snapshot α o.dims → σ) (remaining : Nat) (seen : σ) (capped : Nat) :
    ∃ capped', run o config solver observe (l.length + remaining) i x g seen capped =
      run o config solver observe remaining (i + l.length) y g'
        (l.foldl observe seen) capped' := by
  induction h generalizing seen capped with
  | nil => exact ⟨capped, by rw [List.length_nil, Nat.zero_add]; rfl⟩
  | @cons i x y g g' g'' s rest hstep _ ih =>
    obtain ⟨capped', hrest⟩ :=
      ih (observe seen s) (if s.converged then capped else capped + 1)
    have hnumber : i + (rest.length + 1) = i + 1 + rest.length := by omega
    refine ⟨capped', ?_⟩
    rw [List.length_cons, Nat.add_right_comm, hnumber, Fit.run, hstep]
    exact hrest

/-- Every step of a trace adds at most `newCenters` components. -/
theorem Trace.size_le {i : Nat} {x y : Mixture α o.dims} {g g' : γ}
    {l : List (Snapshot α o.dims)} (h : Trace o config solver i x g l y g') :
    y.size ≤ x.size + l.length * config.newCenters := by
  induction h with
  | nil => exact Nat.le_add_right _ _
  | cons hstep _ ih =>
    have hfirst := size_step_le hstep
    rw [List.length_cons, Nat.succ_mul]
    omega

variable (o config solver) in
/-- `Reaches o config solver start g i x g'`: a fit that starts with `start` and
`g` gets to step `i`, which begins with `x` and `g'`. -/
def Reaches (start : Mixture α o.dims) (g : γ) (i : Nat)
    (x : Mixture α o.dims) (g' : γ) : Prop :=
  i < config.maxSteps ∧ ∃ steps, steps.length = i ∧
    Trace o config solver 0 start g steps x g'

/-- A trace ends with the mixture of its last step. -/
theorem Trace.getLast? {i : Nat} {x y : Mixture α o.dims} {g g' : γ}
    {l : List (Snapshot α o.dims)} (h : Trace o config solver i x g l y g') :
    (x :: l.map Snapshot.mixture).getLast? = some y := by
  induction h with
  | nil => rfl
  | cons _ _ ih => rwa [List.map_cons, List.getLast?_cons_cons]

/-- **Invariants.** What every step preserves holds along a trace. -/
theorem Trace.invariant {P : Mixture α o.dims → Prop}
    (hstep : ∀ {i x s} {g g' : γ}, P x → step o config (solver i) i x g = .ok (s, g') →
      P s.mixture) {i : Nat} {x y : Mixture α o.dims} {g g' : γ}
    {l : List (Snapshot α o.dims)} (h : Trace o config solver i x g l y g') (hx : P x) :
    ∀ z ∈ x :: l.map Snapshot.mixture, P z := by
  induction h with
  | nil => exact List.forall_mem_singleton.mpr hx
  | cons hs _ ih =>
    rw [List.map_cons]
    exact List.forall_mem_cons.mpr ⟨hx, ih (hstep hx hs)⟩

/-- The steps of a trace by number, with the states of the stream between them
and behind the last. -/
theorem Trace.steps {i : Nat} {x y : Mixture α o.dims} {g g' : γ}
    {l : List (Snapshot α o.dims)} (h : Trace o config solver i x g l y g') :
    ∃ stream : Nat → γ, stream 0 = g ∧ stream l.length = g' ∧ ∀ j s, l[j]? = some s →
      ∃ before, (x :: l.map Snapshot.mixture)[j]? = some before ∧
        step o config (solver (i + j)) (i + j) before (stream j) =
          .ok (s, stream (j + 1)) := by
  -- each step puts its own stream in front of those of the steps behind it
  induction h with
  | nil i x g => exact ⟨fun _ => g, rfl, rfl, fun j s hs => by simp at hs⟩
  | @cons i x y g g' g'' s rest hstep hrest ih =>
    obtain ⟨stream, rfl, hlast, hsteps⟩ := ih
    refine ⟨fun j => j.casesOn g stream, rfl, hlast, fun j s' hs' => ?_⟩
    cases j with
    | zero =>
      cases hs'
      exact ⟨x, rfl, hstep⟩
    | succ j =>
      obtain ⟨before, hbefore, hnext⟩ := hsteps j s' hs'
      refine ⟨before, hbefore, ?_⟩
      rw [show i + (j + 1) = i + 1 + j by omega]
      exact hnext

theorem Trace.step_get {i : Nat} {x y : Mixture α o.dims} {g g' : γ}
    {l : List (Snapshot α o.dims)} (h : Trace o config solver i x g l y g') :
    ∃ stream : Nat → γ, stream 0 = g ∧ ∀ j s, l[j]? = some s →
      ∃ before, (x :: l.map Snapshot.mixture)[j]? = some before ∧
        step o config (solver (i + j)) (i + j) before (stream j) =
          .ok (s, stream (j + 1)) := by
  obtain ⟨stream, hfirst, -, hsteps⟩ := h.steps
  exact ⟨stream, hfirst, hsteps⟩

end Fit

variable [One α] [Div α] [NatCast α]

theorem foldl_append_singleton {β : Type} (l seen : List β) :
    l.foldl (fun seen s => seen ++ [s]) seen = seen ++ l := by
  rw [List.foldl_append_eq_append, ← List.flatMap_def, List.flatMap_singleton']

/-- The snapshots of a fit's completed steps, first to last. -/
def completedSteps (o : Observations α) (config : FitConfig α)
    (solver : Nat → LeastSquares.Solver α) (g : γ) :
    List (Snapshot α o.dims) :=
  (adaptiveFit o config solver g (fun seen s => seen ++ [s]) []).observed

/-- `completedSteps` of a fit with `activeSet` and the stream of the settings'
`seed`. -/
def standardSteps (γ : Type) [RandomSource γ α] [Sub α]
    (inner : LeastSquares.PassiveSolve α) (o : Observations α) (config : FitConfig α) :
    List (Snapshot α o.dims) :=
  (standardFit γ inner o config (fun seen s => seen ++ [s]) []).observed

/-- Settings that are refused are refused before the first step. -/
theorem adaptiveFit_refused {o : Observations α} {config : FitConfig α} {fault : Fault α}
    (h : config.validate *> config.initialMixture o.dims = .error fault)
    (solver : Nat → LeastSquares.Solver α) (g : γ)
    (observe : σ → Snapshot α o.dims → σ) (seen : σ) :
    adaptiveFit o config solver g observe seen = ⟨.error fault, seen, g, 0⟩ := by
  rw [adaptiveFit, h]

/-- **A fit is a run from its start**: `completedSteps` are a trace that ends
after the last step allowed, or in front of a step with a fault, and they are
what its observer sees. -/
theorem adaptiveFit_outcome {o : Observations α}
    {config : FitConfig α} {start : Mixture α o.dims}
    (hstart : config.validate *> config.initialMixture o.dims = .ok start)
    (solver : Nat → LeastSquares.Solver α) (g : γ) :
    ∃ y g' result, Fit.Trace o config solver 0 start g
        (completedSteps o config solver g) y g' ∧
      (result = .ok y ∧ (completedSteps o config solver g).length = config.maxSteps ∨
        ∃ fault, result = .error fault ∧
            (completedSteps o config solver g).length < config.maxSteps ∧
          Fit.step o config (solver (completedSteps o config solver g).length)
            (completedSteps o config solver g).length y g' = .error fault) ∧
      ∀ {σ : Type} (observe : σ → Snapshot α o.dims → σ) (seen : σ), ∃ capped,
        adaptiveFit o config solver g observe seen =
          ⟨result, (completedSteps o config solver g).foldl observe seen,
            g', capped⟩ := by
  obtain ⟨l, y, g', result, htrace, hresult, hrun⟩ :=
    Fit.run_outcome o config solver config.maxSteps 0 start g
  have hfit : ∀ {σ : Type} (observe : σ → Snapshot α o.dims → σ) (seen : σ), ∃ capped,
      adaptiveFit o config solver g observe seen =
        ⟨result, l.foldl observe seen, g', capped⟩ := by
    intro σ observe seen
    rw [adaptiveFit, hstart]
    exact hrun observe seen 0
  have hcompleted : completedSteps o config solver g = l := by
    obtain ⟨capped, heq⟩ := hfit (fun seen s => seen ++ [s]) []
    rw [completedSteps, heq, foldl_append_singleton, List.nil_append]
  rw [hcompleted]
  rw [Nat.zero_add] at hresult
  exact ⟨y, g', result, htrace, hresult, hfit⟩

theorem exists_step_of_mem_completedSteps {o : Observations α} {config : FitConfig α}
    {solver : Nat → LeastSquares.Solver α} {g : γ} {s : Snapshot α o.dims}
    (h : s ∈ completedSteps o config solver g) :
    ∃ i x, ∃ g₁ g₂ : γ, Fit.step o config (solver i) i x g₁ = .ok (s, g₂) := by
  cases hstart : config.validate *> config.initialMixture o.dims with
  | error fault =>
    rw [completedSteps, adaptiveFit_refused hstart] at h
    cases h
  | ok start =>
    obtain ⟨y, g', result, htrace, -⟩ := adaptiveFit_outcome hstart solver g
    obtain ⟨stream, -, -, hsteps⟩ := htrace.steps
    obtain ⟨i, hi⟩ := List.getElem?_of_mem h
    obtain ⟨before, -, hstep⟩ := hsteps i s hi
    exact ⟨_, before, _, _, hstep⟩

/-- **The steps of a fit by number.** Step `i` begins with the mixture behind
`i` completed steps. If it returns a snapshot, that is the next of the
`completedSteps`; if it ends with a fault, it is the step behind them, and its
fault is the result of the fit. -/
theorem adaptiveFit_steps {o : Observations α}
    {config : FitConfig α} {start : Mixture α o.dims}
    (hstart : config.validate *> config.initialMixture o.dims = .ok start)
    (solver : Nat → LeastSquares.Solver α) (g : γ) :
    ∃ (stream : Nat → γ) (result : Except (Fault α) (Mixture α o.dims)), stream 0 = g ∧
      (completedSteps o config solver g).length ≤ config.maxSteps ∧
      (∀ {σ : Type} (observe : σ → Snapshot α o.dims → σ) (seen : σ), ∃ capped,
        adaptiveFit o config solver g observe seen =
          ⟨result, (completedSteps o config solver g).foldl observe seen,
            stream (completedSteps o config solver g).length, capped⟩) ∧
      (∀ y, result = .ok y ↔ (completedSteps o config solver g).length = config.maxSteps ∧
        (start :: (completedSteps o config solver g).map Snapshot.mixture).getLast? =
          some y) ∧
      ∀ i x, (start :: (completedSteps o config solver g).map Snapshot.mixture)[i]? =
          some x → i < config.maxSteps →
        (∀ s g', Fit.step o config (solver i) i x (stream i) = .ok (s, g') ↔
          (completedSteps o config solver g)[i]? = some s ∧ g' = stream (i + 1)) ∧
        ∀ fault, Fit.step o config (solver i) i x (stream i) = .error fault ↔
          i = (completedSteps o config solver g).length ∧ result = .error fault := by
  obtain ⟨y, g', result, htrace, hresult, hfit⟩ := adaptiveFit_outcome hstart solver g
  generalize completedSteps o config solver g = steps at *
  obtain ⟨stream, hfirst, hlast, hsteps⟩ := htrace.steps
  simp only [Nat.zero_add] at hsteps
  subst hlast
  refine ⟨stream, result, hfirst, ?_, hfit, fun y' => ?_, fun i x hx hi => ?_⟩
  · rcases hresult with ⟨-, hlength⟩ | ⟨-, -, hlength, -⟩
    · exact hlength.le
    · exact hlength.le
  · rw [htrace.getLast?]
    rcases hresult with ⟨rfl, hlength⟩ | ⟨fault, rfl, hlength, -⟩
    · simp [hlength]
    · simp [hlength.ne]
  · have hle : i ≤ steps.length := by
      have hlt := (List.getElem?_eq_some_iff.mp hx).1
      rw [List.length_cons, List.length_map] at hlt
      exact Nat.le_of_lt_succ hlt
    rcases hle.lt_or_eq with hlt | rfl
    · obtain ⟨before, hbefore, hstep⟩ := hsteps i _ (List.getElem?_eq_getElem hlt)
      cases hbefore.symm.trans hx
      rw [hstep, List.getElem?_eq_getElem hlt]
      constructor
      · intro s g'
        simp [eq_comm]
      · intro fault
        simp [hlt.ne]
    · -- the step behind the completed ones begins with the last mixture
      have hlength : (start :: steps.map Snapshot.mixture).length - 1 =
          steps.length := by simp
      have hlast := htrace.getLast?
      rw [List.getLast?_eq_getElem?, hlength] at hlast
      cases hlast.symm.trans hx
      rcases hresult with ⟨-, hall⟩ | ⟨fault', rfl, -, hstep⟩
      · exact absurd hall hi.ne
      · rw [hstep]
        constructor
        · intro s g'
          simp
        · intro fault
          simp

/-- What a fit reports is a trace from its start. Settings that are refused make
no step at all. -/
theorem adaptiveFit_trace {o : Observations α} {config : FitConfig α}
    {start : Mixture α o.dims} (hstart : config.initialMixture o.dims = .ok start)
    (solver : Nat → LeastSquares.Solver α) (g : γ)
    (observe : σ → Snapshot α o.dims → σ) (seen : σ) :
    ∃ l y, Fit.Trace o config solver 0 start g l y
        (adaptiveFit o config solver g observe seen).stream ∧
      (adaptiveFit o config solver g observe seen).observed = l.foldl observe seen := by
  cases hvalid : config.validate with
  | error fault =>
    have hrefused : config.validate *> config.initialMixture o.dims = .error fault := by
      rw [hvalid]
      rfl
    rw [adaptiveFit_refused hrefused]
    exact ⟨[], start, .nil 0 start g, rfl⟩
  | ok _ =>
    -- only valid settings get as far as the start
    have haccepted : config.validate *> config.initialMixture o.dims = .ok start := by
      rw [hvalid, hstart]
      rfl
    obtain ⟨y, g', result, htrace, -, hfit⟩ := adaptiveFit_outcome haccepted solver g
    obtain ⟨capped, heq⟩ := hfit observe seen
    rw [heq]
    exact ⟨_, y, htrace, rfl⟩

/-- **The invariant of adaptive fits.** Whatever the solver answers and whatever
is drawn: after every completed step the mixture has the signal's columns and as
many weights as locations, all of them finite and positive. Its pairs of weight
and location are the pairs of the solver's coefficients and the pooled locations
whose coefficient is finite and positive, in pool order. The pool is the
locations of the step before followed by the candidates of this step, so the
locations are some of these in the same order, and there are at most
`newCenters` more of them than before. -/
theorem adaptiveFit_pairs (signal : Table α) (target : List α) (o : Observations α)
    (hobservations : Observations.ofTable signal target = .ok o) (config : FitConfig α)
    (start : Mixture α o.dims) (hstart : config.initialMixture o.dims = .ok start)
    (solver : Nat → LeastSquares.Solver α) (g : γ) :
    o.dims = signal.cols ∧ ∃ stream : Nat → γ, stream 0 = g ∧
      ∀ i s, (completedSteps o config solver g)[i]? = some s →
        ∃ before candidates pool coefficients,
        (start :: (completedSteps o config solver g).map Snapshot.mixture)[i]? =
          some before ∧
        sampleCandidates before.components config.newCenters config.sigma (stream i) =
          .ok (candidates, stream (i + 1)) ∧
        pool = before.locations ++ candidates ∧
        coefficients = ((solver i).solve (o.design pool)).coefficients ∧
        coefficients.length = pool.length ∧
        s.mixture.weights.length = s.mixture.locations.length ∧
        (∀ w ∈ s.mixture.weights, Scalar.isFinite w = true ∧ 0 < w) ∧
        s.mixture.weights.zip s.mixture.locations =
          ((coefficients.zip pool).filter fun p => Scalar.isFinite p.1 &&
            decide (0 < p.1)) ∧
        s.mixture.locations.Sublist pool ∧
        s.mixture.size ≤ before.size + config.newCenters := by
  obtain ⟨l, y, htrace, hobserved⟩ :=
    adaptiveFit_trace hstart solver g (fun seen s => seen ++ [s]) []
  have hcompleted : completedSteps o config solver g = l := by
    rw [completedSteps, hobserved, foldl_append_singleton, List.nil_append]
  rw [hcompleted]
  obtain ⟨stream, hfirst, hsteps⟩ := htrace.step_get
  refine ⟨Observations.dims_of_ofTable hobservations, stream, hfirst, fun i s hs => ?_⟩
  obtain ⟨before, hbefore, hstep⟩ := hsteps i s hs
  rw [Nat.zero_add] at hstep
  obtain ⟨candidates, hsample, hprune⟩ := Fit.step_eq_ok hstep
  exact ⟨before, candidates, _, _, hbefore, hsample, rfl, rfl, (prune_eq_ok hprune).1,
    s.mixture.length_weights, fun w => weight_of_prune hprune, zip_of_prune hprune,
    locations_sublist_of_prune hprune, Fit.size_step_le hstep⟩

end Fit

/-- A stream that plays back given numbers, and zeros when they are used up. -/
structure Playback (α : Type) where
  /-- The numbers to come. -/
  rest : List α

/-- The next number, whatever it is asked for. -/
def Playback.next [Zero α] (g : Playback α) : α × Playback α :=
  (g.rest.headD 0, ⟨g.rest.tail⟩)

instance [Zero α] : RandomSource (Playback α) α where
  seeded _ := ⟨[]⟩
  unit := Playback.next
  below _ := Playback.next
  normal := Playback.next

/-- A solver that answers every design with an undefined number, `0.5`, and
negative numbers. -/
def stubbornSolver : LeastSquares.Solver Float where
  solve {_ k} _ :=
    { coefficients := List.ofFn fun i : Fin k =>
        if i.val = 0 then 0.0 / 0.0 else if i.val = 1 then 0.5 else -1.0
      residual := 0.0
      iterations := 0
      converged := false }

/-- One audience with one identifier type. -/
def singleAudience : Table Float := .fill 1 1 1.0

/-- Two steps with two candidates each. -/
def shortSearch : FitConfig Float :=
  { newCenters := 2, sigma := 1.0, maxSteps := 2, initialLocations := none, seed := 0,
    solverCap := 1 }

/-- The draws of `shortSearch`: places and noise of two candidates in each step.
The second candidate falls below zero. -/
def shortDraws : Playback Float := ⟨[0.0, 1.0, 0.0, -3.0, 0.0, 0.5, 0.0, 1.0]⟩

/-- Of the answers of `stubbornSolver` only the positive one is kept in either
step, each time with the location in its place: the valid candidate of the first
step, then the first candidate of the second. -/
theorem adaptiveFit_pairs_stubborn :
    ∃ o, Observations.ofTable singleAudience [0.5] = .ok o ∧
    ∃ start, shortSearch.initialMixture o.dims = .ok start ∧
    ((completedSteps o shortSearch (fun _ => stubbornSolver) shortDraws).map fun s =>
      (s.mixture.weights, s.mixture.locations.map Vector.toList)) =
        [([0.5], [[2.0]]), ([0.5], [[2.5]])] ∧
    ∀ s ∈ completedSteps o shortSearch (fun _ => stubbornSolver) shortDraws,
      ∀ w ∈ s.mixture.weights, Scalar.isFinite w = true ∧ 0 < w := by
  refine ⟨_, rfl, ?_⟩
  cases hstart : shortSearch.initialMixture 1 with
  | error fault =>
    have hok : (shortSearch.initialMixture 1).isOk = true := by decide +kernel
    rw [hstart] at hok
    cases hok
  | ok start =>
    refine ⟨start, hstart, by decide +kernel, fun s hs => ?_⟩
    obtain ⟨i, hi⟩ := List.getElem?_of_mem hs
    obtain ⟨-, stream, -, hsteps⟩ :=
      adaptiveFit_pairs singleAudience [0.5] _ rfl shortSearch start hstart
        (fun _ => stubbornSolver) shortDraws
    obtain ⟨before, candidates, pool, coefficients, -, -, -, -, -, -, hweights, -⟩ :=
      hsteps i s hi
    exact hweights

end ReachMixture
