import ReachMixture.Proofs.LeastSquares.Feasible
import ReachMixture.Proofs.Run.Problem
import ReachMixture.Proofs.Run.Records

/-!
# When runs succeed

A run makes up a problem and fits it, or solves it for weights. What is checked
on the way is gathered here as conditions on the settings. Once they hold,
nothing is refused any more: shapes agree, the start of a fit is valid, and
`activeSet` answers with one coefficient for each location. What is left are the
aborts, when more is asked for than there is room for, and when weights that are
carried into a step do not have a finite sum.

- `RunConfig.IsProblem`, `RunConfig.IsSearch`: settings of which nothing is
  refused.
- `exists_truthMixture_iff`, `Problem.generate_cases`: when there is a mixture
  and a problem.
- `FitConfig.exists_initialMixture`: the usual start is valid.
- `adaptiveFit_eq_error_iff`, `adaptiveFit_aborted`: why fits end with a fault.
- `RunConfig.Overflows`, `RunConfig.Crowds`: the aborts that depend on what a
  fit has come to.
- `standardFit_of_generate`, `runFit_cases`: what comes of the fit of a problem
  and of a run.
- `runWeights_of_generate`: what comes of a solve for weights.
- `runs_succeed_iff`: **when runs succeed**, and the exit codes of those that do
  not.
-/

namespace ReachMixture

variable {α γ σ : Type}

/-! ## Settings -/

section Settings

variable [Zero α] [LT α] [LE α] [Scalar α]

/-- Settings with a mixture: locations that have as many coordinates as the
first one, which has some, and a finite nonnegative weight for each location. -/
structure RunConfig.IsTruth (c : RunConfig α) : Prop where
  locations_ne_nil : c.truthLocations ≠ []
  dims_pos : 0 < c.dims
  length_location : ∀ location ∈ c.truthLocations, location.length = c.dims
  length_weights : c.truthWeights.length = c.truthLocations.length
  weight : ∀ w ∈ c.truthWeights, Scalar.isFinite w = true ∧ 0 ≤ w

/-- Settings that describe a problem: a mixture, and audiences to be made up. -/
structure RunConfig.IsProblem (c : RunConfig α) : Prop extends c.IsTruth where
  rows_pos : 0 < c.rows

/-- Settings that `FitConfig.validate` accepts. -/
structure RunConfig.IsSearch (c : RunConfig α) : Prop where
  centers_pos : 0 < c.newCenters
  isFinite_sigma : Scalar.isFinite c.sigma = true
  sigma_pos : 0 < c.sigma
  steps_pos : 0 < c.maxSteps
  cap_pos : 0 < c.solverCap

instance [DecidableLE α] (c : RunConfig α) : Decidable c.IsProblem :=
  decidable_of_iff (c.truthLocations.isEmpty = false ∧ 0 < c.dims ∧
      (∀ location ∈ c.truthLocations, location.length = c.dims) ∧
      c.truthWeights.length = c.truthLocations.length ∧
      (∀ w ∈ c.truthWeights, Scalar.isFinite w = true ∧ 0 ≤ w) ∧ 0 < c.rows)
    ⟨fun ⟨hne, hdims, heven, hlength, hweight, hrows⟩ =>
      ⟨⟨List.isEmpty_eq_false_iff.mp hne, hdims, heven, hlength, hweight⟩, hrows⟩,
    fun ⟨⟨hne, hdims, heven, hlength, hweight⟩, hrows⟩ =>
      ⟨List.isEmpty_eq_false_iff.mpr hne, hdims, heven, hlength, hweight, hrows⟩⟩

instance [DecidableLT α] (c : RunConfig α) : Decidable c.IsSearch :=
  decidable_of_iff (0 < c.newCenters ∧ Scalar.isFinite c.sigma = true ∧ 0 < c.sigma ∧
    0 < c.maxSteps ∧ 0 < c.solverCap) ⟨fun ⟨hcenters, hfinite, hpos, hsteps,
    hcap⟩ => ⟨hcenters, hfinite, hpos, hsteps, hcap⟩, fun ⟨hcenters, hfinite, hpos,
    hsteps, hcap⟩ => ⟨hcenters, hfinite, hpos, hsteps, hcap⟩⟩

end Settings

section Truth

variable [Zero α] [One α] [Add α] [Div α] [LT α] [LE α] [DecidableLT α] [NatCast α]
  [Scalar α] [LawfulStart α]

omit [Zero α] [One α] [Add α] [Div α] [LT α] [LE α] [DecidableLT α] [NatCast α]
  [Scalar α] [LawfulStart α] in
theorem exists_vectors {m : Nat} {rows : List (List α)}
    (h : ∀ row ∈ rows, row.length = m) :
    ∃ vectors : List (Vector α m), vectors.map Vector.toList = rows := by
  refine ⟨rows.pmap Vec.ofList h, ?_⟩
  rw [List.map_pmap]
  exact List.pmap_eq_self.mpr fun row hrow => rfl

/-- **Settings with a mixture** are those that `truthMixture` does not refuse. -/
theorem exists_truthMixture_iff {c : RunConfig α} :
    (∃ truth, truthMixture c = .ok truth) ↔ c.IsTruth := by
  constructor
  · rintro ⟨truth, h⟩
    have hdims := dims_of_truthMixture h
    obtain ⟨hne, hweights, hlocations⟩ := truthMixture_eq_ok_iff.mp h
    refine ⟨hne, hdims ▸ truth.dims_pos, ?_, ?_, ?_⟩
    · intro location hlocation
      rw [← hlocations] at hlocation
      obtain ⟨v, -, rfl⟩ := List.mem_map.mp hlocation
      exact Vector.length_toList.trans hdims
    · rw [← hweights, ← hlocations, List.length_map, Mixture.length_weights]
    · intro w hw
      rw [← hweights] at hw
      obtain ⟨component, hcomponent, rfl⟩ := List.mem_map.mp hw
      exact ⟨(truth.mixture.isWeight _ hcomponent).1,
        truth.mixture.weight_nonneg _ hcomponent⟩
  · intro h
    -- locations of one length are vectors, and weights that are finite and
    -- nonnegative pass the checks
    obtain ⟨vectors, hvectors⟩ := exists_vectors h.length_location
    have hlength : c.truthWeights.length = vectors.length := by
      rw [h.length_weights, ← hvectors, List.length_map]
    obtain ⟨hweights, hlocations⟩ := (Component.zip_eq_ok_iff .mixtureWeights).mp
      (if_pos hlength : Component.zip _ c.truthWeights vectors = .ok _)
    have hproper : ∀ component ∈ List.zipWith Component.mk c.truthWeights vectors,
        IsWeight component.weight := by
      intro component hcomponent
      have hw : component.weight ∈ c.truthWeights :=
        hweights ▸ List.mem_map_of_mem hcomponent
      exact ⟨(h.weight _ hw).1, LawfulStart.not_neg_of_nonneg (h.weight _ hw).2⟩
    refine ⟨⟨c.dims, h.dims_pos, ⟨_, hproper⟩⟩,
      truthMixture_eq_ok_iff.mpr ⟨h.locations_ne_nil, hweights, ?_⟩⟩
    exact (congrArg (List.map Vector.toList) hlocations).trans hvectors

end Truth

/-! ## Problems -/

section Problem

variable [Zero α] [LT α] [DecidableLT α] [Scalar α]

theorem Mixture.exitCode_of_ofTable {weights : List α} {t : Table α} {fault : Fault α}
    (h : Mixture.ofTable weights t = .error fault) :
    (Failure.refused fault).exitCode = 2 := by
  rcases bind_eq_error_iff.mp h with h | ⟨components, -, h⟩
  · unfold Component.zipTable at h
    split_ifs at h
    cases h
    rfl
  · obtain ⟨index, weight, rfl⟩ := Mixture.ofComponents_eq_error h
    rfl

/-- `truthMixture` refuses, and computes nothing that could be aborted. -/
theorem exitCode_of_truthMixture {c : RunConfig α} {failure : Failure α}
    (h : truthMixture c = .error failure) : failure.exitCode = 2 := by
  unfold truthMixture at h
  split at h
  · cases h
    rfl
  · split at h
    · rcases bind_eq_error_iff.mp h with h | ⟨even, -, h⟩
      · obtain ⟨found, -, rfl⟩ := mapError_eq_error_iff.mp h
        rfl
      · rcases bind_eq_error_iff.mp h with h | ⟨mixture, -, h⟩
        · obtain ⟨fault, hmixture, rfl⟩ := mapError_eq_error_iff.mp h
          exact Mixture.exitCode_of_ofTable hmixture
        · cases h
    · cases h
      rfl

variable [One α] [Add α] [Mul α] [Div α] [Neg α] [LE α] [NatCast α]
  [LawfulStart α] [RandomSource γ α]

/-- **What `Problem.generate` makes of settings**: they are refused, aborted
because there is no room, or there is a problem. -/
theorem Problem.generate_cases (γ : Type) [RandomSource γ α] (c : RunConfig α) :
    (∃ failure, Problem.generate γ c = .error failure ∧
      failure.exitCode = 2 ∧ ¬ c.IsProblem) ∨
    (∃ failure, Problem.generate γ c = .error failure ∧ failure.exitCode ≠ 2 ∧
      c.IsProblem ∧ ¬ c.HasRoom) ∨
    (∃ p, Problem.generate γ c = .ok p) ∧ c.IsProblem ∧ c.HasRoom := by
  by_cases hrows : 0 < c.rows
  · cases htruth : truthMixture c with
    | error failure =>
      refine .inl ⟨failure, Problem.generate_of_error hrows htruth,
        exitCode_of_truthMixture htruth, fun hproblem => ?_⟩
      obtain ⟨truth, htruth'⟩ := exists_truthMixture_iff.mpr hproblem.toIsTruth
      cases htruth.symm.trans htruth'
    | ok truth =>
      have hproblem : c.IsProblem := ⟨exists_truthMixture_iff.mp ⟨truth, htruth⟩, hrows⟩
      right
      rw [Problem.generate_of_truth hrows htruth]
      by_cases hroom : c.HasRoom
      · rw [if_pos hroom]
        exact .inr ⟨⟨_, rfl⟩, hproblem, hroom⟩
      · rw [if_neg hroom]
        exact .inl ⟨_, rfl, (by rintro ⟨⟩), hproblem, hroom⟩
  · rw [Problem.generate, dif_neg hrows]
    exact .inl ⟨_, rfl, rfl, fun hproblem => hrows hproblem.rows_pos⟩

/-- **Settings have a problem** iff they describe one and there is room for it. -/
theorem Problem.exists_generate_iff {c : RunConfig α} :
    (∃ p, Problem.generate γ c = .ok p) ↔ c.IsProblem ∧ c.HasRoom := by
  rcases Problem.generate_cases γ c with ⟨failure, h, -, hrefused⟩
    | ⟨failure, h, -, -, hroom⟩ | ⟨hp, hproblem, hroom⟩
  · rw [h]
    exact ⟨nofun, fun hboth => absurd hboth.1 hrefused⟩
  · rw [h]
    exact ⟨nofun, fun hboth => absurd hboth.2 hroom⟩
  · exact ⟨fun _ => ⟨hproblem, hroom⟩, fun _ => hp⟩

/-- **A problem is aborted** iff it is described and there is no room for it. -/
theorem Problem.exitCode_of_generate {c : RunConfig α} {failure : Failure α}
    (h : Problem.generate γ c = .error failure) : failure.exitCode ≠ 2 ↔
    c.IsProblem ∧ ¬ c.HasRoom := by
  rcases Problem.generate_cases γ c with ⟨_, h', hcode, hrefused⟩
    | ⟨_, h', hcode, hproblem, hroom⟩ | ⟨⟨p, hp⟩, -⟩
  · cases h.symm.trans h'
    exact ⟨fun hne => absurd hcode hne, fun hboth => absurd hboth.1 hrefused⟩
  · cases h.symm.trans h'
    exact ⟨fun _ => ⟨hproblem, hroom⟩, fun _ => hcode⟩
  · exact nomatch h.symm.trans hp

end Problem

/-! ## Fits that start from ones -/

section Start

variable [Zero α] [LT α] [DecidableLT α] [Scalar α]

theorem FitConfig.validate_eq_ok_iff {config : FitConfig α} :
    config.validate = .ok () ↔
      0 < config.newCenters ∧ isWidth config.sigma = true ∧ 0 < config.maxSteps ∧
      0 < config.solverCap := by
  constructor
  · exact FitConfig.validate_eq_ok
  · rintro ⟨hcenters, hsigma, hsteps, hcap⟩
    rw [FitConfig.validate, if_neg hcenters.ne', hsigma, if_neg (by decide),
      if_neg hsteps.ne', if_neg hcap.ne']

/-- `FitConfig.validate` refuses, and never aborts. -/
theorem FitConfig.exitCode_of_validate {config : FitConfig α} {fault : Fault α}
    (h : config.validate = .error fault) :
    (Failure.refused fault).exitCode = 2 := by
  unfold FitConfig.validate at h
  split_ifs at h <;> cases h <;> rfl

theorem RunConfig.validate_fitConfig_iff {c : RunConfig α} :
    c.fitConfig.validate = .ok () ↔ c.IsSearch := by
  rw [FitConfig.validate_eq_ok_iff, isWidth, Bool.and_eq_true, decide_eq_true_iff]
  constructor
  · rintro ⟨hcenters, ⟨hfinite, hpos⟩, hsteps, hcap⟩
    exact ⟨hcenters, hfinite, hpos, hsteps, hcap⟩
  · rintro ⟨hcenters, hfinite, hpos, hsteps, hcap⟩
    exact ⟨hcenters, ⟨hfinite, hpos⟩, hsteps, hcap⟩

variable [One α] [Add α] [Div α] [LE α] [DecidableLE α] [NatCast α]
variable [LawfulStart α]

omit [DecidableLT α] in
theorem FitConfig.isStart_ones (k : Nat) :
    FitConfig.isStart (List.replicate (k + 1) (1 : α)) = true := by
  rw [FitConfig.isStart, Bool.and_eq_true, List.all_eq_true, Bool.not_eq_true',
    decide_eq_false_iff_not]
  refine ⟨fun v hv => ?_, LawfulSigns.not_le_of_pos (LawfulStart.ones_pos k)⟩
  rw [List.eq_of_mem_replicate hv]
  exact LawfulStart.isFinite_one

/-- **The usual start** is a location of ones, and there is weight to sample
from. -/
theorem FitConfig.exists_initialMixture (config : FitConfig α)
    (hnone : config.initialLocations = none) {dims : Nat} (hdims : 0 < dims)
    (hroom : dims < Capacity.entries) :
    ∃ start, config.initialMixture dims = .ok start ∧ 0 < totalOf start.weights := by
  have hstart : config.start dims = .ok (.fill 1 dims 1) :=
    FitConfig.start_eq_ok_iff.mpr (.inr ⟨hnone, hroom, rfl⟩)
  have hvalid : (Table.fill 1 dims (1 : α)).findRow?
      (fun l => !FitConfig.isStart l.toList) = none := by
    obtain ⟨k, rfl⟩ := Nat.exists_eq_add_one.mpr hdims
    show (if (!FitConfig.isStart (Vector.replicate (k + 1) (1 : α)).toList) = true
      then some 0 else none) = none
    rw [Vector.toList_replicate, FitConfig.isStart_ones]
    rfl
  -- the single location has all the weight
  have hweight : IsWeight (1 / ((1 : Nat) : α)) :=
    ⟨LawfulWeights.isFinite_shares 0, LawfulSigns.not_neg_of_pos LawfulStart.share_pos⟩
  have hlength : ((Table.fill 1 dims (1 : α)).vectorsOf rfl).toList.length = 1 :=
    Vector.length_toList
  obtain ⟨location, hlocation⟩ := List.length_eq_one_iff.mp hlength
  refine ⟨⟨[⟨1 / ((1 : Nat) : α), location⟩], by simpa using hweight⟩, ?_,
    LawfulStart.share_pos⟩
  rw [FitConfig.initialMixture, hstart]
  simp only [bind, Except.bind]
  rw [dif_pos (show (Table.fill 1 dims (1 : α)).cols = dims from rfl),
    if_neg (show (Table.fill 1 dims (1 : α)).rows ≠ 0 from Nat.one_ne_zero), hvalid]
  exact Mixture.ofComponents_eq_ok_iff.mpr (congrArg (List.map _) hlocation.symm)

end Start

/-! ## Fits with a solver that answers -/

section Fit

variable [Zero α] [One α] [Add α] [Mul α] [Div α] [Neg α] [LT α] [LE α] [DecidableLT α]
  [DecidableLE α] [NatCast α]
variable [Scalar α] [RandomSource γ α]

variable [LawfulWeights α]

/-- **A fit ends with a fault** iff a step that it `Reaches` `Halts` with it. -/
theorem adaptiveFit_eq_error_iff {o : Observations α} {config : FitConfig α}
    {start : Mixture α o.dims}
    (hstart : config.validate *> config.initialMixture o.dims = .ok start)
    (solver : Nat → LeastSquares.Solver α) (g : γ) (observe : σ → Snapshot α o.dims → σ)
    (seen : σ) (fault : Fault α) :
    (adaptiveFit o config solver g observe seen).result = .error fault ↔
      ∃ i x g', Fit.Reaches o config solver start g i x g' ∧
        Fit.Halts o config (solver i) i x g' fault := by
  obtain ⟨hvalid, hinitial⟩ := FitConfig.of_accepted hstart
  have hsigma := (FitConfig.validate_eq_ok hvalid).2.1
  have hhalts : ∀ i x g', Fit.Reaches o config solver start g i x g' →
      (Fit.step o config (solver i) i x g' = .error fault ↔
        Fit.Halts o config (solver i) i x g' fault) := by
    rintro i x g' ⟨-, steps, rfl, htrace⟩
    refine Fit.step_eq_error_iff hsigma (fun hfirst => ?_) _ _ _
    cases htrace with
    | nil => exact FitConfig.isFinite_total_initialMixture hinitial
    | cons => cases hfirst
  constructor
  · intro h
    obtain ⟨y, g', result, htrace, hend, hfit⟩ := adaptiveFit_outcome hstart solver g
    obtain ⟨capped, hrun⟩ := hfit observe seen
    rw [hrun] at h
    rcases hend with ⟨rfl, -⟩ | ⟨fault', rfl, hlt, hstep⟩
    · cases h
    · cases h
      have hreaches : Fit.Reaches o config solver start g _ y g' := ⟨hlt, _, rfl, htrace⟩
      exact ⟨_, y, g', hreaches, (hhalts _ _ _ hreaches).mp hstep⟩
  · rintro ⟨i, x, g', hreaches, hhalt⟩
    have hstep := (hhalts i x g' hreaches).mpr hhalt
    obtain ⟨hlt, steps, rfl, htrace⟩ := hreaches
    -- the run takes the steps of the trace, and the next one is not completed
    obtain ⟨rest, hrest⟩ := Nat.exists_eq_add_of_lt hlt
    obtain ⟨capped, hrun⟩ := htrace.run observe (rest + 1) seen 0
    rw [Nat.zero_add] at hrun
    rw [adaptiveFit, hstart]
    show (Fit.run o config solver observe config.maxSteps 0 start g seen 0).result = _
    rw [hrest, Nat.add_assoc, hrun, Fit.run, hstep]

/-- **Fits are aborted or succeed** if the solver answers with one coefficient
per column and there is weight at the start. They are aborted if there is no
room for the candidates, or if they reach a step that begins with weights
without a finite sum or that is `Cramped`. -/
theorem adaptiveFit_aborted {o : Observations α}
    {config : FitConfig α} {start : Mixture α o.dims}
    (hstart : config.validate *> config.initialMixture o.dims = .ok start)
    (hpos : 0 < totalOf start.weights) (solver : Nat → LeastSquares.Solver α)
    (hsolver : ∀ (j : Nat) {n k : Nat} (d : LeastSquares.Design α n k),
      ((solver j).solve d).coefficients.length = k) (g : γ)
    (observe : σ → Snapshot α o.dims → σ) (seen : σ) :
    (∀ fault, (adaptiveFit o config solver g observe seen).result = .error fault →
      ∃ cause, fault = .aborted cause) ∧
    ((∃ fault, (adaptiveFit o config solver g observe seen).result = .error fault) ↔
      Capacity.rows ≤ config.newCenters ∨
      (∃ i x g', Fit.Reaches o config solver start g i x g' ∧
        0 < i ∧ 0 < totalOf x.weights ∧ Scalar.isFinite (totalOf x.weights) = false) ∨
      ∃ i x g', Fit.Reaches o config solver start g i x g' ∧
        Fit.Cramped o config (solver i) x g') := by
  obtain ⟨hvalid, hinitial⟩ := FitConfig.of_accepted hstart
  have hmax := (FitConfig.validate_eq_ok hvalid).2.2.1
  have hfit := adaptiveFit_eq_error_iff hstart solver g observe seen
  refine ⟨fun fault hfault => ?_, ?_, ?_⟩
  · obtain ⟨i, x, g', -, hhalt⟩ := (hfit fault).mp hfault
    cases hhalt with
    | unbounded => exact ⟨_, rfl⟩
    | crowded => exact ⟨_, rfl⟩
    | cramped => exact ⟨_, rfl⟩
    | mismatch _ _ _ _ hlength => exact absurd (hsolver i _) hlength
  · rintro ⟨fault, hfault⟩
    obtain ⟨i, x, g', hreaches, hhalt⟩ := (hfit fault).mp hfault
    cases hhalt with
    | unbounded hlater htotal hsum =>
      exact .inr (.inl ⟨i, x, g', hreaches, hlater, htotal, hsum⟩)
    | crowded _ _ hcrowded => exact .inl hcrowded
    | cramped hcramped => exact .inr (.inr ⟨i, x, g', hreaches, hcramped⟩)
    | mismatch _ _ _ _ hlength => exact absurd (hsolver i _) hlength
  · rintro (hcrowded | ⟨i, x, g', hreaches, hlater, htotal, hsum⟩
      | ⟨i, x, g', hreaches, hcramped⟩)
    · -- there is weight at the start, so the first step asks for room already
      have hfinite := FitConfig.isFinite_total_initialMixture hinitial
      have hfirst : Fit.Reaches o config solver start g 0 start g :=
        ⟨hmax, [], rfl, .nil 0 start g⟩
      exact ⟨_, (hfit _).mpr ⟨0, start, g, hfirst, .crowded hpos hfinite hcrowded⟩⟩
    · exact ⟨_, (hfit _).mpr ⟨i, x, g', hreaches, .unbounded hlater htotal hsum⟩⟩
    · exact ⟨_, (hfit _).mpr ⟨i, x, g', hreaches, .cramped hcramped⟩⟩

end Fit

/-! ## Runs -/

section Run

variable [Zero α] [One α] [Add α] [Sub α] [Mul α] [Div α] [Neg α] [LT α] [LE α]
  [DecidableLT α] [DecidableLE α]
variable [NatCast α] [Scalar α] [RandomSource γ α]

/-- `c.Meets γ inner P`: the fit of the run gets to a step with `P o i x g`, the
`i`th one, which begins with the mixture `x` and the stream `g`. Here `o` are
the observations of the problem. -/
def RunConfig.Meets (γ : Type) [RandomSource γ α] (inner : LeastSquares.PassiveSolve α)
    (c : RunConfig α)
    (P : (o : Observations α) → Nat → Mixture α o.dims → γ → Prop) : Prop :=
  ∃ p start, Problem.generate γ c = .ok p ∧
    c.fitConfig.initialMixture p.observations.dims = .ok start ∧
    ∃ i x g, Fit.Reaches p.observations c.fitConfig
      (fun _ => LeastSquares.activeSet inner c.solverCap) start
      (RandomSource.seeded α c.seed : γ) i x g ∧ P p.observations i x g

/-- A step of the run begins with weights, left by the step in front of it, that
do not have a finite sum. -/
def RunConfig.Overflows (γ : Type) [RandomSource γ α]
    (inner : LeastSquares.PassiveSolve α) (c : RunConfig α) : Prop :=
  c.Meets γ inner fun _ i x _ =>
    0 < i ∧ 0 < totalOf x.weights ∧ Scalar.isFinite (totalOf x.weights) = false

/-- A step of the run is `Cramped`: its pool has no room for its coordinates,
its reach on the audiences or the Gram matrix of the solver. -/
def RunConfig.Crowds (γ : Type) [RandomSource γ α] (inner : LeastSquares.PassiveSolve α)
    (c : RunConfig α) : Prop :=
  c.Meets γ inner fun o _ x g =>
    Fit.Cramped o c.fitConfig (LeastSquares.activeSet inner c.solverCap) x g

variable {inner : LeastSquares.PassiveSolve α} {c : RunConfig α}

/-- `Meets` for a given problem and start. -/
theorem RunConfig.meets_iff {p : Problem α} (hp : Problem.generate γ c = .ok p)
    {start : Mixture α p.observations.dims}
    (hstart : c.fitConfig.initialMixture p.observations.dims = .ok start)
    {P : (o : Observations α) → Nat → Mixture α o.dims → γ → Prop} :
    c.Meets γ inner P ↔ ∃ i x g, Fit.Reaches p.observations c.fitConfig
      (fun _ => LeastSquares.activeSet inner c.solverCap) start
      (RandomSource.seeded α c.seed : γ) i x g ∧ P p.observations i x g := by
  constructor
  · rintro ⟨p', start', hp', hstart', h⟩
    cases hp.symm.trans hp'
    cases hstart.symm.trans hstart'
    exact h
  · exact fun h => ⟨p, start, hp, hstart, h⟩

/-- A single step carries nothing into another one. -/
theorem RunConfig.not_overflows (h : c.maxSteps ≤ 1) : ¬ c.Overflows γ inner := by
  rintro ⟨p, start, -, -, i, x, g, ⟨hlt, -⟩, hlater, -⟩
  have hmax : i < c.maxSteps := hlt
  omega

/-- There is room for every pool if there is room for one with all candidates of
all steps. -/
theorem RunConfig.not_crowds {k : Nat} (hk : k = 1 + c.maxSteps * c.newCenters)
    (hpool : k * c.dims < Capacity.entries) (hreach : k * c.rows < Capacity.entries)
    (hgram : k * k < Capacity.entries) : ¬ c.Crowds γ inner := by
  rintro ⟨p, start, hp, hstart, i, x, g, ⟨hlt, steps, rfl, htrace⟩, hcramped⟩
  obtain ⟨hrows, hdims, -, -⟩ := Problem.sizes_of_generate hp
  have hmax : steps.length < c.maxSteps := hlt
  have hsize : x.size + c.newCenters ≤ k := by
    have hle : x.size ≤ start.size + steps.length * c.newCenters := htrace.size_le
    rw [FitConfig.size_initialMixture rfl hstart] at hle
    calc x.size + c.newCenters ≤ 1 + steps.length * c.newCenters + c.newCenters :=
          Nat.add_le_add_right hle _
      _ = 1 + (steps.length + 1) * c.newCenters := by rw [Nat.succ_mul, Nat.add_assoc]
      _ ≤ k := by
          rw [hk]
          exact Nat.add_le_add_left (Nat.mul_le_mul_right _ hmax) 1
  have hroom : p.observations.HasRoom (LeastSquares.activeSet inner c.solverCap) k :=
    ⟨by rwa [hdims], by rwa [hrows], hgram⟩
  exact Fit.not_cramped (hroom.mono hsize) g hcramped

variable [LawfulStart α]

variable (inner) in
/-- **What comes of the fit of a problem**: it is refused, aborted or
successful. -/
theorem standardFit_of_generate {p : Problem α} (hp : Problem.generate γ c = .ok p)
    (observe : σ → Snapshot α p.observations.dims → σ) (seen : σ) :
    (∃ fault, (standardFit γ inner p.observations c.fitConfig observe seen).result =
        .error fault ∧
      (Failure.refused fault).exitCode = 2 ∧ ¬ c.IsSearch) ∨
    (∃ fault, (standardFit γ inner p.observations c.fitConfig observe seen).result =
        .error fault ∧
      (Failure.refused fault).exitCode ≠ 2 ∧ c.IsSearch ∧
      (Capacity.rows ≤ c.newCenters ∨ c.Overflows γ inner ∨ c.Crowds γ inner)) ∨
    (∃ y, (standardFit γ inner p.observations c.fitConfig observe seen).result = .ok y) ∧
      c.IsSearch ∧ ¬ (Capacity.rows ≤ c.newCenters ∨ c.Overflows γ inner ∨
        c.Crowds γ inner) := by
  cases hvalid : c.fitConfig.validate with
  | error fault =>
    have hrefused : c.fitConfig.validate *>
        c.fitConfig.initialMixture p.observations.dims =
        .error fault := by
      rw [hvalid]
      rfl
    refine .inl ⟨fault, ?_, FitConfig.exitCode_of_validate hvalid, ?_⟩
    · rw [standardFit, adaptiveFit_refused hrefused]
    · intro hsearch
      exact nomatch hvalid.symm.trans (RunConfig.validate_fitConfig_iff.mpr hsearch)
  | ok _ =>
    have hdims : p.observations.dims < Capacity.entries :=
      (Nat.le_mul_of_pos_left _ p.observations.rows_pos).trans_lt
        (Problem.room_of_generate hp).1
    -- settings of a run have no locations to start from, so the start is the
    -- usual one
    obtain ⟨start, hstart, hpos⟩ :=
      c.fitConfig.exists_initialMixture rfl p.observations.dims_pos hdims
    have haccepted : c.fitConfig.validate *>
        c.fitConfig.initialMixture p.observations.dims =
        .ok start := by
      rw [hvalid, hstart]
      rfl
    have hsearch := RunConfig.validate_fitConfig_iff.mp hvalid
    obtain ⟨haborted, hexists⟩ := adaptiveFit_aborted haccepted hpos
      (fun _ => LeastSquares.activeSet inner c.solverCap)
      (fun _ _ _ d => by
        rw [LeastSquares.ActiveSet.activeSet_coefficients, Vector.length_toList])
      (RandomSource.seeded α c.seed : γ) observe seen
    right
    rw [RunConfig.Overflows, RunConfig.Crowds, RunConfig.meets_iff hp hstart,
      RunConfig.meets_iff hp hstart]
    cases hresult :
      (standardFit γ inner p.observations c.fitConfig observe seen).result with
    | error fault =>
      obtain ⟨cause, rfl⟩ := haborted fault hresult
      exact .inl ⟨_, rfl, nofun, hsearch, hexists.mp ⟨_, hresult⟩⟩
    | ok y =>
      refine .inr ⟨⟨y, rfl⟩, hsearch, fun h => ?_⟩
      obtain ⟨fault, hfault⟩ := hexists.mpr h
      exact nomatch hresult.symm.trans hfault

omit [LawfulStart α] in
/-- **What comes of `runWeights`** for settings with a problem: the solver's
coefficients and the distance that they leave, if its Gram matrix has room.
Everything else has had room before. -/
theorem runWeights_of_generate {p : Problem α} (hp : Problem.generate γ c = .ok p) :
    (runWeights γ inner c).result =
      if c.truthLocations.length * c.truthLocations.length < Capacity.entries then
        .ok ⟨p, ((LeastSquares.activeSet inner c.solverCap).solve
            (p.observations.design p.truth.locations)).coefficients,
          p.observations.distance (List.zipWith Component.mk
            ((LeastSquares.activeSet inner c.solverCap).solve
              (p.observations.design p.truth.locations)).coefficients p.truth.locations)⟩
      else .error (.refused (.aborted .overCapacity)) := by
  obtain ⟨-, -, hlength, -⟩ := Problem.sizes_of_generate hp
  obtain ⟨hsignal, hreach⟩ := Problem.room_of_generate hp
  have hrows : p.observations.rows < Capacity.entries :=
    (Nat.le_mul_of_pos_right _ p.observations.dims_pos).trans_lt hsignal
  rw [runWeights, hp]
  dsimp only
  -- the reach has had room in the problem already, the Gram matrix is the only
  -- further block
  by_cases hgram : c.truthLocations.length * c.truthLocations.length < Capacity.entries
  · have hkept : p.truth.locations.length * p.truth.locations.length <
        Capacity.entries := by
      rwa [hlength]
    have hsolve : p.observations.solveWeights (LeastSquares.activeSet inner c.solverCap)
        p.truth.locations.length (Vec.ofList p.truth.locations rfl) =
          .ok ((LeastSquares.activeSet inner c.solverCap).solve
            (p.observations.design p.truth.locations)) :=
      Observations.solveWeights_eq_ok_iff.mpr ⟨hreach, hkept, rfl⟩
    have hcoefficients : ((LeastSquares.activeSet inner c.solverCap).solve
        (p.observations.design p.truth.locations)).coefficients.length =
          p.truth.locations.length := by
      rw [LeastSquares.ActiveSet.activeSet_coefficients, Vector.length_toList]
    have hmeasure : ∀ components : List (Component α p.observations.dims),
        components.length = p.truth.locations.length →
        p.observations.measure components = .ok (p.observations.distance components) := by
      intro components hcomponents
      exact Observations.measure_eq_ok_iff.mpr ⟨by rwa [hcomponents], hrows, rfl⟩
    rw [if_pos hgram, hsolve]
    dsimp only
    rw [Component.zip, if_pos hcoefficients]
    show refusedBy (p.observations.measure _ >>= _) = _
    rw [hmeasure _ (by rw [List.length_zipWith, hcoefficients, Nat.min_self])]
    rfl
  · have hkept : ¬ p.truth.locations.length * p.truth.locations.length <
        Capacity.entries := by
      rwa [hlength]
    rw [if_neg hgram, Observations.solveWeights_eq_error_iff.mpr
      ⟨rfl, fun h => hkept h.2⟩]

omit [LawfulStart α] in
/-- **The results of `runWeights`** are the problem of its settings, the
solver's coefficients, and the distance that they leave. -/
theorem runWeights_eq_ok_iff {run : WeightsRun α} :
    (runWeights γ inner c).result = .ok run ↔
      Problem.generate γ c = .ok run.problem ∧
      c.truthLocations.length * c.truthLocations.length < Capacity.entries ∧
      run.recovered = ((LeastSquares.activeSet inner c.solverCap).solve
        (run.problem.observations.design run.problem.truth.locations)).coefficients ∧
      run.distance = run.problem.observations.distance
        (List.zipWith Component.mk run.recovered run.problem.truth.locations) := by
  cases hp : Problem.generate γ c with
  | error failure =>
    rw [runWeights, hp]
    constructor
    · rintro ⟨⟩
    · rintro ⟨⟨⟩, -⟩
  | ok p =>
    rw [runWeights_of_generate hp]
    constructor
    · intro h
      split_ifs at h with hgram
      cases h
      exact ⟨rfl, hgram, rfl, rfl⟩
    · obtain ⟨p', recovered, distance⟩ := run
      rintro ⟨hp', hgram, hrecovered, hdistance⟩
      cases hp'
      dsimp only at hrecovered hdistance
      subst hrecovered
      subst hdistance
      rw [if_pos hgram]

omit [LawfulStart α] in
/-- `runWeights` fails because there is no problem, or because the Gram matrix
has no room. -/
theorem runWeights_eq_error_iff {failure : Failure α} :
    (runWeights γ inner c).result = .error failure ↔
      Problem.generate γ c = .error failure ∨
      (∃ p, Problem.generate γ c = .ok p) ∧
        ¬ c.truthLocations.length * c.truthLocations.length < Capacity.entries ∧
        failure = .refused (.aborted .overCapacity) := by
  cases hp : Problem.generate γ c with
  | error found =>
    rw [runWeights, hp]
    constructor
    · rintro ⟨⟩
      exact .inl rfl
    · rintro (⟨⟨⟩⟩ | ⟨⟨p, h⟩, -⟩)
      · rfl
      · cases h
  | ok p =>
    rw [runWeights_of_generate hp]
    constructor
    · intro h
      split_ifs at h with hgram
      cases h
      exact .inr ⟨⟨p, rfl⟩, hgram, rfl⟩
    · rintro (h | ⟨-, hgram, rfl⟩)
      · cases h
      · rw [if_neg hgram]

variable (γ inner c)

/-- **What comes of `runFit`**: it is refused, aborted or successful. Without
room for the problem it is aborted before anything is known about the search. -/
theorem runFit_cases :
    (∃ failure, (runFit γ inner c).result = .error failure ∧ failure.exitCode = 2 ∧
      (¬ c.IsProblem ∨ c.HasRoom ∧ ¬ c.IsSearch)) ∨
    (∃ failure, (runFit γ inner c).result = .error failure ∧
        failure.exitCode ≠ 2 ∧ c.IsProblem ∧
      (¬ c.HasRoom ∨ c.IsSearch ∧
        (Capacity.rows ≤ c.newCenters ∨ c.Overflows γ inner ∨ c.Crowds γ inner))) ∨
    (∃ run, (runFit γ inner c).result = .ok run) ∧ c.IsProblem ∧ c.HasRoom ∧ c.IsSearch ∧
      ¬ (Capacity.rows ≤ c.newCenters ∨ c.Overflows γ inner ∨ c.Crowds γ inner) := by
  rcases Problem.generate_cases γ c with
    ⟨failure, h, hcode, hrefused⟩ | ⟨failure, h, hcode, hproblem, hroom⟩
      | ⟨⟨p, hp⟩, hproblem, hroom⟩
  · exact .inl ⟨failure, runFit_eq_error_iff.mpr (.inl h), hcode, .inl hrefused⟩
  · exact .inr
      (.inl ⟨failure, runFit_eq_error_iff.mpr (.inl h), hcode, hproblem, .inl hroom⟩)
  · rcases standardFit_of_generate inner hp (fun _ _ => ()) () with
      ⟨fault, hfault, hcode, hrefused⟩ | ⟨fault, hfault, hcode, hsearch, hunbounded⟩ |
      ⟨⟨y, hy⟩, hsearch, hbounded⟩
    · have hrun := runFit_eq_error_iff.mpr (.inr ⟨p, fault, hp, rfl, hfault⟩)
      exact .inl ⟨_, hrun, hcode, .inr ⟨hroom, hrefused⟩⟩
    · have hrun := runFit_eq_error_iff.mpr (.inr ⟨p, fault, hp, rfl, hfault⟩)
      exact .inr (.inl ⟨_, hrun, hcode, hproblem, .inr ⟨hsearch, hunbounded⟩⟩)
    · refine .inr (.inr ⟨?_, hproblem, hroom, hsearch, hbounded⟩)
      rw [runFit_of_generate hp, hy]
      exact ⟨_, rfl⟩

theorem exists_runFit_iff :
    (∃ run, (runFit γ inner c).result = .ok run) ↔
      c.IsProblem ∧ c.HasRoom ∧ c.IsSearch ∧ c.newCenters < Capacity.rows ∧
        ¬ c.Overflows γ inner ∧ ¬ c.Crowds γ inner := by
  rw [← not_or, ← not_le, ← not_or]
  rcases runFit_cases γ inner c with
    ⟨failure, h, -, hrefused⟩ | ⟨failure, h, -, -, haborted⟩ | ⟨hrun, hsuccess⟩
  · rw [h]
    refine ⟨nofun, fun ⟨hproblem, _, hsearch, _⟩ => ?_⟩
    rcases hrefused with hno | ⟨-, hno⟩
    · exact absurd hproblem hno
    · exact absurd hsearch hno
  · rw [h]
    refine ⟨nofun, fun ⟨_, hroom, _, hbounded⟩ => ?_⟩
    rcases haborted with hno | ⟨-, hunbounded⟩
    · exact absurd hroom hno
    · exact absurd hunbounded hbounded
  · exact ⟨fun _ => hsuccess, fun _ => hrun⟩

theorem exitCode_of_runFit {failure : Failure α}
    (h : (runFit γ inner c).result = .error failure) :
    failure.exitCode ≠ 2 ↔
      c.IsProblem ∧ (¬ c.HasRoom ∨ c.IsSearch ∧
        (Capacity.rows ≤ c.newCenters ∨ c.Overflows γ inner ∨ c.Crowds γ inner)) := by
  rcases runFit_cases γ inner c with
    ⟨_, h', hcode, hrefused⟩ | ⟨_, h', hcode, haborted⟩ | ⟨⟨run, hrun⟩, -⟩
  · cases h.symm.trans h'
    refine ⟨fun hne => absurd hcode hne, ?_⟩
    rintro ⟨hproblem, hno | ⟨hsearch, -⟩⟩ <;>
      rcases hrefused with hrefused | ⟨hroom, hrefused⟩
    · exact absurd hproblem hrefused
    · exact absurd hroom hno
    · exact absurd hproblem hrefused
    · exact absurd hsearch hrefused
  · cases h.symm.trans h'
    exact ⟨fun _ => haborted, fun _ => hcode⟩
  · exact nomatch h.symm.trans hrun

theorem exists_runWeights_iff :
    (∃ run, (runWeights γ inner c).result = .ok run) ↔ c.IsProblem ∧ c.HasRoom ∧
      c.truthLocations.length * c.truthLocations.length < Capacity.entries := by
  rw [← and_assoc, ← Problem.exists_generate_iff (γ := γ)]
  constructor
  · rintro ⟨run, h⟩
    obtain ⟨hp, hgram, -⟩ := runWeights_eq_ok_iff.mp h
    exact ⟨⟨run.problem, hp⟩, hgram⟩
  · rintro ⟨⟨p, hp⟩, hgram⟩
    rw [runWeights_of_generate hp, if_pos hgram]
    exact ⟨_, rfl⟩

theorem exitCode_of_runWeights {failure : Failure α}
    (h : (runWeights γ inner c).result = .error failure) :
    failure.exitCode ≠ 2 ↔ c.IsProblem ∧ ¬ (c.HasRoom ∧
      c.truthLocations.length * c.truthLocations.length < Capacity.entries) := by
  rcases runWeights_eq_error_iff.mp h with hfailure | ⟨hp, hgram, rfl⟩
  · rw [Problem.exitCode_of_generate hfailure]
    refine and_congr_right fun hproblem =>
      ⟨fun hroom hboth => hroom hboth.1, fun _ hroom => ?_⟩
    obtain ⟨p, hp⟩ := (Problem.exists_generate_iff (γ := γ)).mpr ⟨hproblem, hroom⟩
    exact nomatch hfailure.symm.trans hp
  · have hproblem := (Problem.exists_generate_iff.mp hp).1
    exact ⟨fun _ => ⟨hproblem, fun hboth => hgram hboth.2⟩, fun _ => nofun⟩

variable {γ inner c}

/-- `runWeights` has one weight per location, and none is negative. -/
theorem recovered_of_runWeights {run : WeightsRun α}
    (h : (runWeights γ inner c).result = .ok run) :
    run.recovered.length = c.truthLocations.length ∧ ∀ w ∈ run.recovered, ¬ w < 0 := by
  obtain ⟨hp, -, hrecovered, -⟩ := runWeights_eq_ok_iff.mp h
  obtain ⟨-, -, hlength, -⟩ := Problem.sizes_of_generate hp
  rw [hrecovered, LeastSquares.ActiveSet.activeSet_coefficients]
  -- every stage of the method is feasible, so it does not matter how it ends
  refine ⟨Vector.length_toList.trans hlength, fun w hw => ?_⟩
  obtain ⟨i, hi, rfl⟩ := List.getElem_of_mem hw
  exact ((LeastSquares.ActiveSet.Setting.ofDesign inner _).stage_feasible
    c.solverCap).not_neg ⟨i, by simpa using hi⟩

/-- **When runs succeed.** A run with a fit succeeds iff its settings describe a
problem for which there is room, a fit can search with them, there is room for
the candidates of a step, no step leaves weights to the next one whose sum is
not finite (`Overflows`), and every pool that the fit comes to has room
(`Crowds`). The last is so if there is room for a pool with all candidates of
all steps. A run that solves for weights succeeds iff its settings describe a
problem for which there is room and a Gram matrix of all locations has room,
whatever they say about the search; it then has one weight per location, and
none is negative. Every failure has exit code two, unless a lack of room or an
unbounded sum has aborted the run. -/
theorem runs_succeed_iff (γ : Type) [RandomSource γ α]
    (inner : LeastSquares.PassiveSolve α) (c : RunConfig α) :
    ((∃ run, (runFit γ inner c).result = .ok run) ↔
      c.IsProblem ∧ c.HasRoom ∧ c.IsSearch ∧ c.newCenters < Capacity.rows ∧
        ¬ c.Overflows γ inner ∧ ¬ c.Crowds γ inner) ∧
    (∀ k, k = 1 + c.maxSteps * c.newCenters → k * c.dims < Capacity.entries →
      k * c.rows < Capacity.entries → k * k < Capacity.entries → ¬ c.Crowds γ inner) ∧
    ((∃ run, (runWeights γ inner c).result = .ok run) ↔ c.IsProblem ∧ c.HasRoom ∧
      c.truthLocations.length * c.truthLocations.length < Capacity.entries) ∧
    (∀ run, (runWeights γ inner c).result = .ok run →
      run.recovered.length = c.truthLocations.length ∧ ∀ w ∈ run.recovered, ¬ w < 0) ∧
    (∀ failure, (runFit γ inner c).result = .error failure → (failure.exitCode ≠ 2 ↔
      c.IsProblem ∧ (¬ c.HasRoom ∨ c.IsSearch ∧
        (Capacity.rows ≤ c.newCenters ∨ c.Overflows γ inner ∨ c.Crowds γ inner)))) ∧
    ∀ failure, (runWeights γ inner c).result = .error failure →
      (failure.exitCode ≠ 2 ↔ c.IsProblem ∧ ¬ (c.HasRoom ∧
        c.truthLocations.length * c.truthLocations.length < Capacity.entries)) :=
  ⟨exists_runFit_iff γ inner c, fun _ => RunConfig.not_crowds,
    exists_runWeights_iff γ inner c, fun _ => recovered_of_runWeights,
    fun _ => exitCode_of_runFit γ inner c, fun _ => exitCode_of_runWeights γ inner c⟩

end Run

/-- The usual problem with a fit of one step. -/
def briefRun : RunConfig Float := { RunConfig.usual with maxSteps := 1 }

/-- `briefRun` without iterations for the solver. -/
def idleRun : RunConfig Float := { briefRun with solverCap := 0 }

/-- The one step of `briefRun` carries nothing into another step, so the fit
succeeds. With `idleRun` there is no fit, and `runWeights` succeeds all the
same. -/
theorem runs_succeed_iff_brief :
    (∃ run, (runFit Random.Generator LeastSquares.floatSolve briefRun).result = .ok run) ∧
    (∃ failure, (runFit Random.Generator LeastSquares.floatSolve idleRun).result =
        .error failure ∧
      failure.exitCode = 2) ∧
    ∃ run, (runWeights Random.Generator LeastSquares.floatSolve idleRun).result =
        .ok run ∧
      run.recovered.length = 3 ∧ ∀ w ∈ run.recovered, ¬ w < 0 := by
  obtain ⟨hfit, hroom, -⟩ :=
    runs_succeed_iff Random.Generator LeastSquares.floatSolve briefRun
  obtain ⟨hidle, -, hweights, hrecovered, hcode, -⟩ :=
    runs_succeed_iff Random.Generator LeastSquares.floatSolve idleRun
  have hcap : ¬ idleRun.IsSearch := by decide
  refine ⟨?_, ?_, ?_⟩
  · exact hfit.mpr ⟨by decide, by decide, by decide, by decide,
      RunConfig.not_overflows le_rfl, hroom 11 rfl (by decide) (by decide) (by decide)⟩
  · cases hrun : (runFit Random.Generator LeastSquares.floatSolve idleRun).result with
    | ok run => exact absurd (hidle.mp ⟨run, hrun⟩).2.2.1 hcap
    | error failure =>
      refine ⟨failure, rfl, not_ne_iff.mp fun h => ?_⟩
      rcases ((hcode failure hrun).mp h).2 with hroom | ⟨hsearch, -⟩
      · exact hroom (by decide)
      · exact hcap hsearch
  · obtain ⟨run, hrun⟩ := hweights.mpr ⟨by decide, by decide, by decide⟩
    exact ⟨run, hrun, hrecovered run hrun⟩

/-- `emptyRun` for `2 ^ 60` audiences. -/
def vastRun : RunConfig Float := emptyRun.withRows (2 ^ 60)

/-- `emptyRun` with a single step of `2 ^ 64 - 1` candidates. -/
def crowdedRun : RunConfig Float :=
  { emptyRun with newCenters := 2 ^ 64 - 1, maxSteps := 1 }

/-- Settings that are `IsProblem` and `IsSearch` may ask for more than there is
room for. Their runs are aborted, and the exit code is not two. -/
theorem runs_crowded :
    (vastRun.IsProblem ∧ vastRun.rows * vastRun.dims < 2 ^ 64 ∧
      ∃ failure, (runWeights Random.Generator LeastSquares.floatSolve vastRun).result =
          .error failure ∧
        failure.exitCode ≠ 2) ∧
    crowdedRun.IsProblem ∧ crowdedRun.IsSearch ∧
    crowdedRun.rows * crowdedRun.dims < 2 ^ 64 ∧
      ¬ crowdedRun.Overflows Random.Generator LeastSquares.floatSolve ∧
      ∃ failure, (runFit Random.Generator LeastSquares.floatSolve crowdedRun).result =
          .error failure ∧
        failure.exitCode ≠ 2 := by
  constructor
  · have hproblem : vastRun.IsProblem := by decide
    have hroom : ¬ vastRun.HasRoom := by decide
    refine ⟨hproblem, by decide, ?_⟩
    cases hrun : (runWeights Random.Generator LeastSquares.floatSolve vastRun).result with
    | ok run => exact absurd ((exists_runWeights_iff _ _ _).mp ⟨run, hrun⟩).2.1 hroom
    | error failure =>
      exact ⟨failure, rfl,
        (exitCode_of_runWeights _ _ _ hrun).mpr ⟨hproblem, fun hboth => hroom hboth.1⟩⟩
  · have hproblem : crowdedRun.IsProblem := by decide
    have hsearch : crowdedRun.IsSearch := by decide
    have hcenters : Capacity.rows ≤ crowdedRun.newCenters := by decide
    refine ⟨hproblem, hsearch, by decide, RunConfig.not_overflows le_rfl, ?_⟩
    cases hrun : (runFit Random.Generator LeastSquares.floatSolve crowdedRun).result with
    | ok run =>
      exact absurd ((exists_runFit_iff _ _ _).mp ⟨run, hrun⟩).2.2.2.1 hcenters.not_gt
    | error failure =>
      exact ⟨failure, rfl, (exitCode_of_runFit _ _ _ hrun).mpr
        ⟨hproblem, .inr ⟨hsearch, .inl hcenters⟩⟩⟩

end ReachMixture
