import ReachMixture.Proofs.Fit.Sparsity

/-!
# The region of valid locations

Locations are read as exposure rates, so their coordinates have to be positive.
Candidates that are not are dropped, and since a fit only keeps what it starts
with or has drawn, it never leaves the region. On audiences with counts that are
not negative its locations then reach between none and all, and its mixtures
between none and their total weight.

- `pos_of_isValidLocation`: the test on candidates finds every coordinate that
  is not positive, undefined ones too.
- `Mixture.InRegion`, `Fit.inRegion_of_step`: steps do not lead out of the
  region.
- `Observations.design_bounds`, `Observations.predict_bounds`: reaches and
  predictions inside the region.
- `adaptiveFit_inRegion`: the same along whole fits.
-/

namespace ReachMixture

variable {α γ : Type} {m : Nat}

/-! ## The test on candidates -/

section Test

variable [Zero α] [One α] [Add α] [LT α] [LE α] [DecidableLT α] [DecidableLE α]

/-- The lesser of `least` and a further coordinate `v`, which is left out if it
is undefined (`¬ v ≤ v`). -/
def lesser (least : Option α) (v : α) : Option α :=
  match least with
  | none => if v ≤ v then some v else none
  | some l => if v < l then some v else some l

omit [Zero α] [One α] [Add α] in
theorem leastCoordinate_eq (coords : List α) :
    leastCoordinate coords = coords.foldl lesser none := rfl

variable [LawfulCoordinates α]

omit [DecidableLT α] [DecidableLE α] in
theorem defined_of_sum {coords : List α} {sum : α}
    (h : coords.foldl (· + ·) sum ≤ coords.foldl (· + ·) sum) : sum ≤ sum ∧
    ∀ v ∈ coords, v ≤ v := by
  induction coords generalizing sum with
  | nil => exact ⟨h, by simp⟩
  | cons v coords ih =>
    obtain ⟨hsum, hcoords⟩ := ih h
    obtain ⟨hleft, hright⟩ := LawfulCoordinates.defined_of_add hsum
    exact ⟨hleft, List.forall_mem_cons.mpr ⟨hright, hcoords⟩⟩

/-- If the least coordinate is positive, so are all the defined ones. By
induction on the coordinates. -/
theorem pos_of_least {coords : List α} {least : Option α}
    (h : ∀ l, coords.foldl lesser least = some l → 0 < l) :
    (∀ l, least = some l → 0 < l) ∧ ∀ v ∈ coords, v ≤ v → 0 < v := by
  induction coords generalizing least with
  | nil => exact ⟨h, by simp⟩
  | cons v coords ih =>
    obtain ⟨hleast, hpos⟩ := ih h
    -- an undefined `v` is left out, and a defined one is at least the new
    -- `least`
    cases least with
    | none =>
      refine ⟨by simp, List.forall_mem_cons.mpr ⟨fun hv => ?_, hpos⟩⟩
      rw [lesser, if_pos hv] at hleast
      exact hleast v rfl
    | some l =>
      rw [lesser] at hleast
      by_cases hlt : v < l
      · rw [if_pos hlt] at hleast
        have hv := hleast v rfl
        refine ⟨?_, List.forall_mem_cons.mpr ⟨fun _ => hv, hpos⟩⟩
        intro _ heq
        cases heq
        exact LawfulCoordinates.pos_of_lt hv hlt
      · rw [if_neg hlt] at hleast
        refine ⟨hleast, List.forall_mem_cons.mpr ⟨fun hv => ?_, hpos⟩⟩
        exact LawfulCoordinates.pos_of_not_lt (hleast l rfl) hv hlt

/-- **Valid locations are positive.** `leastCoordinate` finds a coordinate that
is not positive, unless it is undefined; then the sum is undefined too. -/
theorem pos_of_isValidLocation {coords : List α} (h : isValidLocation coords = true) :
    ∀ v ∈ coords, 0 < v := by
  rw [isValidLocation, Bool.and_eq_true, Bool.and_eq_true, decide_eq_true_iff] at h
  obtain ⟨⟨-, hleast⟩, hsum⟩ := h
  have hdefined := (defined_of_sum (LawfulCoordinates.defined_of_pos hsum)).2
  have hpos : ∀ l, coords.foldl lesser none = some l → 0 < l := by
    intro l hl
    rw [leastCoordinate_eq, hl] at hleast
    exact of_decide_eq_true hleast
  exact fun v hv => (pos_of_least hpos).2 v hv (hdefined v hv)

end Test

/-! ## Locations in the region -/

/-- All coordinates are positive. -/
def InRegion [Zero α] [LT α] (location : Vector α m) : Prop := ∀ j, 0 < location.get j

theorem inRegion_of_mem [Zero α] [LT α] {location : Vector α m}
    (h : ∀ v ∈ location.toList, 0 < v) :
    InRegion location :=
  fun j => h _ (Vector.mem_toList_iff.mpr (Vector.getElem_mem j.isLt))

section Candidates

variable [Zero α] [One α] [Add α] [Mul α] [LT α] [LE α] [DecidableLT α]
  [DecidableLE α] [Scalar α]
variable [RandomSource γ α] [LawfulCoordinates α]

omit [Scalar α] in
theorem inRegion_of_mem_drawCandidates (p : Picker α m) (sigma : α)
    (count : Nat) (g : γ) :
    ∀ l ∈ (drawCandidates p sigma count g).1, InRegion l := by
  induction count generalizing g with
  | zero => simp [drawCandidates]
  | succ count ih =>
    rw [drawCandidates]
    dsimp only
    split
    · rename_i hvalid
      exact List.forall_mem_cons.mpr
        ⟨inRegion_of_mem (pos_of_isValidLocation hvalid), ih _⟩
    · exact ih _

/-- All candidates are in the region, since `sampleCandidates` keeps only those
with `isValidLocation`. -/
theorem inRegion_of_sampleCandidates {components : List (Component α m)}
    {count : Nat} {sigma : α} {g g' : γ} {candidates : List (Vector α m)}
    (h : sampleCandidates components count sigma g = .ok (candidates, g')) :
    ∀ l ∈ candidates, InRegion l := by
  unfold sampleCandidates at h
  split at h
  · split at h
    · cases h
    · cases h
      simp
    · rename_i p _
      split at h
      · cases h
      · have hdrawn := inRegion_of_mem_drawCandidates p sigma count g
        rw [Except.ok.inj h] at hdrawn
        exact hdrawn
  · cases h

end Candidates

/-- All locations of `x` are in the region. -/
def Mixture.InRegion [Zero α] [LT α] [Scalar α] (x : Mixture α m) : Prop :=
  ∀ l ∈ x.locations, ReachMixture.InRegion l

/-- All `initialLocations` are in the region, if there are any. -/
def FitConfig.StartsInRegion [Zero α] [LT α] (config : FitConfig α) : Prop :=
  ∀ t, config.initialLocations = some t → ∀ i, ReachMixture.InRegion (t.row i)

section Fit

variable [Zero α] [One α] [Add α] [Mul α] [Div α] [Neg α] [LT α] [LE α] [DecidableLT α]
  [DecidableLE α] [NatCast α]
variable [Scalar α] [LawfulCoordinates α]

omit [Mul α] [Neg α] [LawfulCoordinates α] in
/-- What holds of `1` and of all coordinates of `initialLocations` holds of all
coordinates of the start. -/
theorem FitConfig.coordinate_of_initialMixture
    {config : FitConfig α} {dims : Nat} {start : Mixture α dims}
    (hstart : config.initialMixture dims = .ok start) {P : α → Prop} (hone : P 1)
    (hown : ∀ t, config.initialLocations = some t → ∀ i j, P ((t.row i).get j)) :
    ∀ l ∈ start.locations, ∀ j, P (l.get j) := by
  obtain ⟨t, hcols, htable, -, hcomponents⟩ := FitConfig.components_initialMixture hstart
  have hrows : ∀ i j, P ((t.row i).get j) := by
    rcases FitConfig.start_eq_ok_iff.mp htable with hlocations | ⟨-, -, rfl⟩
    · exact hown t hlocations
    · have hones : ∀ j, P ((Vector.replicate dims (1 : α)).get j) := by
        intro j
        rwa [Vector.get_eq_getElem, Vector.getElem_replicate]
      exact fun _ => hones
  subst hcols
  have hlocations : start.locations = t.rowList := by
    rw [Mixture.locations, hcomponents, List.map_map]
    simp [Table.vectorsOf, Table.rowList, Function.comp_def]
  intro l hl
  rw [hlocations, Table.rowList, Table.vectors, Vector.toList_ofFn, List.mem_ofFn] at hl
  obtain ⟨i, rfl⟩ := hl
  exact hrows i

omit [Mul α] [Neg α] in
theorem FitConfig.StartsInRegion.initialMixture {config : FitConfig α}
    (h : config.StartsInRegion) {dims : Nat} {start : Mixture α dims}
    (hstart : config.initialMixture dims = .ok start) : start.InRegion :=
  FitConfig.coordinate_of_initialMixture hstart LawfulCoordinates.one_pos h

variable [RandomSource γ α]

namespace Fit

omit [Div α] [Neg α] [NatCast α] in
/-- The pool of a step is in the region if its mixture is. -/
theorem inRegion_of_mem_pool {o : Observations α} {config : FitConfig α}
    {x : Mixture α o.dims} (hx : x.InRegion) {g g' : γ}
    {candidates : List (Vector α o.dims)}
    (h : sampleCandidates x.components config.newCenters config.sigma g =
      .ok (candidates, g')) :
    ∀ l ∈ x.locations ++ candidates, InRegion l := by
  intro l hl
  rcases List.mem_append.mp hl with hold | hnew
  · exact hx l hold
  · exact inRegion_of_sampleCandidates h l hnew

omit [Div α] [NatCast α] in
/-- **Steps stay in the region**, whatever the solver answers: by
`locations_sublist_of_prune` they keep some of their pool. -/
theorem inRegion_of_step {o : Observations α} {config : FitConfig α}
    {solver : LeastSquares.Solver α} {i : Nat} {x : Mixture α o.dims}
    {g g' : γ} {s : Snapshot α o.dims} (hx : x.InRegion)
    (h : step o config solver i x g = .ok (s, g')) : s.mixture.InRegion := by
  obtain ⟨candidates, hsample, hprune⟩ := step_eq_ok h
  intro l hl
  exact inRegion_of_mem_pool hx hsample l ((locations_sublist_of_prune hprune).subset hl)

end Fit

/-- Fits that start in the region stay there. By `Trace.invariant`. -/
theorem inRegion_of_mem_mixtures {o : Observations α} {config : FitConfig α}
    (hregion : config.StartsInRegion) {start : Mixture α o.dims}
    (hstart : config.validate *> config.initialMixture o.dims = .ok start)
    (solver : Nat → LeastSquares.Solver α) (g : γ) :
    ∀ x ∈ start :: (completedSteps o config solver g).map Snapshot.mixture,
      x.InRegion := by
  obtain ⟨_, _, _, htrace, -⟩ := adaptiveFit_outcome hstart solver g
  exact htrace.invariant Fit.inRegion_of_step
    (hregion.initialMixture (FitConfig.of_accepted hstart).2)

end Fit

/-! ## Reaches in exact arithmetic -/

section Exact

variable [Field α] [LinearOrder α] [IsStrictOrderedRing α] [Scalar α]

/-- `-1 ≤ expm1 v ≤ 0` for `v ≤ 0`: the exponential of such a number is between
zero and one. -/
def BoundedExponential (α : Type) [Field α] [LinearOrder α] [Scalar α] : Prop :=
  ∀ v : α, v ≤ 0 → -1 ≤ Scalar.expm1 v ∧ Scalar.expm1 v ≤ 0

theorem BoundedExponential.partialReach (hexp : BoundedExponential α)
    {x : α} (hx : 0 ≤ x) :
    0 ≤ partialReach x ∧ partialReach x ≤ 1 := by
  obtain ⟨hlow, hhigh⟩ := hexp (-x) (neg_nonpos.mpr hx)
  exact ⟨neg_nonneg.mpr hhigh, neg_le.mp hlow⟩

namespace Observations

variable {o : Observations α}

/-- A location in the region has a `partialReach` between zero and one on every
audience. -/
theorem reach_bounds (hexp : BoundedExponential α)
    (hsignal : ∀ row j, 0 ≤ (o.signal.get row).get j) {location : Vector α o.dims}
    (hl : InRegion location) (row : Fin o.rows) :
    0 ≤ partialReach (Vec.dot location (o.signal.get row)) ∧
      partialReach (Vec.dot location (o.signal.get row)) ≤ 1 := by
  refine hexp.partialReach ?_
  rw [Vec.dot_eq]
  exact Finset.sum_nonneg fun j _ => mul_nonneg (hl j).le (hsignal row j)

theorem design_bounds (hexp : BoundedExponential α)
    (hsignal : ∀ row j, 0 ≤ (o.signal.get row).get j) {pool : List (Vector α o.dims)}
    (hpool : ∀ l ∈ pool, InRegion l) (j : Fin pool.length) (row : Fin o.rows) :
    0 ≤ ((o.design pool).columns.get j).get row ∧
    ((o.design pool).columns.get j).get row ≤ 1 := by
  rw [design_column]
  exact reach_bounds hexp hsignal (hpool _ (List.get_mem pool j)) row

/-- Mixtures in the region predict between zero and their `totalWeight`. -/
theorem predict_bounds [ExactScalar α] (hexp : BoundedExponential α)
    (hsignal : ∀ row j, 0 ≤ (o.signal.get row).get j) {x : Mixture α o.dims}
    (hx : x.InRegion) (row : Fin o.rows) :
    0 ≤ (predict x.components o.signal).get row ∧
      (predict x.components o.signal).get row ≤ x.totalWeight := by
  have hreach : ∀ c ∈ x.components,
      0 ≤ partialReach (Vec.dot c.location (o.signal.get row)) ∧
      partialReach (Vec.dot c.location (o.signal.get row)) ≤ 1 :=
    fun c hc => reach_bounds hexp hsignal (hx _ (List.mem_map_of_mem hc)) row
  have htotal : x.totalWeight = (x.components.map Component.weight).sum := by
    rw [Mixture.totalWeight, weightSum, neg_zero, ← List.sum_eq_foldl]
    rfl
  rw [htotal, predict_get]
  constructor
  · refine List.sum_nonneg fun v hv => ?_
    obtain ⟨c, hc, rfl⟩ := List.mem_map.mp hv
    exact mul_nonneg (x.weight_nonneg c hc) (hreach c hc).1
  · exact List.sum_le_sum fun c hc =>
      mul_le_of_le_one_right (x.weight_nonneg c hc) (hreach c hc).2

end Observations

end Exact

/-! ## Whole fits -/

/-- **Fits stay in the region.** Whatever the solver answers, whatever is drawn
and however numbers are rounded: if all coordinates of the starting locations
are positive, so are those of every location after every step. In exact
arithmetic and with a `BoundedExponential`, fits to audiences without negative
counts then hand only entries between zero and one to the solver, also in a step
that does not complete; and all their mixtures predict between zero and their
total weight. -/
theorem adaptiveFit_inRegion :
    (∀ {α γ : Type} [Zero α] [One α] [Add α] [Mul α] [Div α] [Neg α] [LT α] [LE α]
      [DecidableLT α] [DecidableLE α] [NatCast α] [Scalar α] [LawfulCoordinates α]
      [RandomSource γ α] (o : Observations α) (config : FitConfig α),
      config.StartsInRegion → ∀ (solver : Nat → LeastSquares.Solver α) (g : γ),
      ∀ s ∈ completedSteps o config solver g,
      ∀ l ∈ s.mixture.locations, ∀ j, 0 < l.get j) ∧
    ∀ {α γ : Type} [Field α] [LinearOrder α] [IsStrictOrderedRing α] [Scalar α]
      [ExactScalar α] [RandomSource γ α],
      BoundedExponential α → ∀ o : Observations α,
        (∀ row j, 0 ≤ (o.signal.get row).get j) →
      ∀ config : FitConfig α, config.StartsInRegion →
      ∀ start, config.validate *> config.initialMixture o.dims = .ok start →
      ∀ (solver : Nat → LeastSquares.Solver α) (g : γ),
      ∃ (steps : List (Snapshot α o.dims)) (mixtures : List (Mixture α o.dims))
        (stream : Nat → γ),
        steps = completedSteps o config solver g ∧
        mixtures = start :: steps.map Snapshot.mixture ∧ stream 0 = g ∧
        (∀ i s x, steps[i]? = some s → mixtures[i]? = some x →
          Fit.step o config (solver i) i x (stream i) = .ok (s, stream (i + 1))) ∧
        (∀ i x candidates g', mixtures[i]? = some x → i < config.maxSteps →
          sampleCandidates x.components config.newCenters config.sigma (stream i) =
            .ok (candidates, g') →
          ∀ j row, 0 ≤ ((o.design (x.locations ++ candidates)).columns.get j).get row ∧
            ((o.design (x.locations ++ candidates)).columns.get j).get row ≤ 1) ∧
        ∀ x ∈ mixtures, ∀ row, 0 ≤ (predict x.components o.signal).get row ∧
          (predict x.components o.signal).get row ≤ x.totalWeight := by
  constructor
  · intro α γ _ _ _ _ _ _ _ _ _ _ _ _ _ _ o config hregion solver g s hs
    cases hstart : config.validate *> config.initialMixture o.dims with
    | error fault =>
      rw [completedSteps, adaptiveFit_refused hstart] at hs
      cases hs
    | ok start =>
      exact inRegion_of_mem_mixtures hregion hstart solver g
        _ (List.mem_cons_of_mem _ (List.mem_map_of_mem hs))
  · intro α γ _ _ _ _ _ _ hexp o hsignal config hregion start hstart solver g
    have hmixtures := inRegion_of_mem_mixtures hregion hstart solver g
    obtain ⟨stream, result, hfirst, hcount, -, -, hsteps⟩ :=
      adaptiveFit_steps hstart solver g
    refine ⟨_, _, stream, rfl, rfl, hfirst, ?_, ?_, ?_⟩
    · intro i s x hs hx
      have hi := (List.getElem?_eq_some_iff.mp hs).1.trans_le hcount
      exact ((hsteps i x hx hi).1 s _).mpr ⟨hs, rfl⟩
    · intro i x candidates g' hx _ hsample
      exact Observations.design_bounds hexp hsignal
        (Fit.inRegion_of_mem_pool (hmixtures x (List.mem_of_getElem? hx)) hsample)
    · intro x hx
      exact Observations.predict_bounds hexp hsignal (hmixtures x hx)

/-- `shortSearch` with two starting locations of its own. -/
def pairedSearch : FitConfig Float :=
  { shortSearch with initialLocations := some (.fill 2 1 0.5) }

/-- Draws for the two steps of `pairedSearch`. The first two candidates are
undefined and negative. -/
def brokenDraws : Playback Float := ⟨[0.0, 0.0 / 0.0, 0.0, -3.0, 0.0, 0.5, 0.0, 1.0]⟩

/-- `expm1` over `ℝ` is bounded. -/
theorem boundedExponential_real : BoundedExponential ℝ := by
  intro v hv
  show -1 ≤ Real.exp v - 1 ∧ Real.exp v - 1 ≤ 0
  have hpos := Real.exp_pos v
  have hle := Real.exp_le_one_iff.mpr hv
  constructor <;> linarith

/-- The undefined and the negative candidate of `brokenDraws` get lost, and in
exact arithmetic `generousFit` stays within bounds. -/
theorem adaptiveFit_inRegion_broken :
    ((completedSteps singleObservations pairedSearch (fun _ => stubbornSolver)
      brokenDraws).map fun s =>
      s.mixture.locations.map Vector.toList) = [[[0.5]], [[1.0]]] ∧
    (∀ s ∈ completedSteps singleObservations pairedSearch (fun _ => stubbornSolver)
      brokenDraws, ∀ l ∈ s.mixture.locations, ∀ j, 0 < l.get j) ∧
    BoundedExponential ℝ ∧
    ∃ start, generousFit.2.validate *>
        generousFit.2.initialMixture generousFit.1.dims = .ok start ∧
      (standardSteps (Playback ℝ) (LeastSquares.gramSolve fun _ => none) generousFit.1
        generousFit.2).length = 10 ∧
      ∀ x ∈ start :: (standardSteps (Playback ℝ) (LeastSquares.gramSolve fun _ => none)
        generousFit.1 generousFit.2).map Snapshot.mixture,
        ∀ row, 0 ≤ (predict x.components generousFit.1.signal).get row ∧
          (predict x.components generousFit.1.signal).get row ≤ x.totalWeight := by
  obtain ⟨hrounded, hexact⟩ := adaptiveFit_inRegion
  obtain ⟨start, hstart, hroom⟩ := generousFit_accepted
  have hpaired : pairedSearch.StartsInRegion := by
    intro t ht
    cases ht
    show ∀ i : Fin 2, ∀ j : Fin 1, (0 : Float) < (Vector.replicate 1 0.5).get j
    decide +kernel
  have hgenerous : generousFit.2.StartsInRegion := by
    intro t ht
    cases ht
  have hsignal : ∀ (row : Fin generousFit.1.rows) (j : Fin generousFit.1.dims),
      0 ≤ (generousFit.1.signal.get row).get j := by
    show ∀ row j : Fin 1, (0 : ℝ) ≤ ((#v[#v[1]] : Vector (Vector ℝ 1) 1).get row).get j
    intro row j
    rw [Subsingleton.elim row 0, Subsingleton.elim j 0]
    exact zero_le_one
  obtain ⟨_, _, _, rfl, rfl, -, -, -, hbounds⟩ :=
    hexact boundedExponential_real generousFit.1 hsignal generousFit.2 hgenerous start
      hstart (fun _ => LeastSquares.activeSet (LeastSquares.gramSolve fun _ => none)
      generousFit.2.solverCap) (RandomSource.seeded ℝ generousFit.2.seed : Playback ℝ)
  exact ⟨by decide +kernel, hrounded _ _ hpaired _ _, boundedExponential_real, start,
    hstart, length_standardSteps_gramSolve LeastSquares.exactElimination _ hstart
    (by decide) hroom, hbounds⟩

end ReachMixture
