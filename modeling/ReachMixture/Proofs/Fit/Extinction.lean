import ReachMixture.Proofs.Fit.Budget

/-!
# Extinction

A step may leave no components at all. Then there is nothing to draw around, the
pool of the next step is empty, and whatever the solver makes of a problem
without columns, nothing can come back: the mixture stays empty. The fit does
not fail for that, it takes the rest of its steps in vain.

- `Fit.idle`, `Fit.step_empty`: what a step does that begins without components.
- `Fit.stays_empty`: what all further steps do.
- `predict_nil`, `Mixture.evaluate_empty`, `Mixture.evaluateTable_empty`: the
  prediction of the empty mixture is zero everywhere.
- `adaptiveFit_extinct`: the rest of a fit, once its mixture is empty.
-/

namespace ReachMixture

variable {α γ σ : Type} {m n : Nat}

section Empty

variable [Zero α] [LT α] [Scalar α]

theorem Mixture.eq_empty {x : Mixture α m} (h : x.isEmpty = true) : x = .empty m := by
  obtain ⟨components, _⟩ := x
  obtain rfl : components = [] := List.isEmpty_iff.mp h
  rfl

variable [Add α] [Mul α] [Neg α]

omit [LT α] in
theorem predict_nil (signal : Vector (Vector α m) n) :
    predict [] signal = Vector.replicate n 0 :=
  Vector.map_const' ..

/-- `Mixture.empty` predicts zeros on every signal that has room. -/
theorem Mixture.evaluate_empty (hrows : n < Capacity.entries)
    (signal : Thunk (Vector (Vector α m) n)) :
    (Mixture.empty m).evaluate signal = .ok (Vector.replicate n 0) := by
  refine Component.evaluate_eq_ok_iff.mpr ⟨?_, hrows, predict_nil signal.get⟩
  show 0 * n < Capacity.entries
  rw [Nat.zero_mul]
  decide

/-- The same for a table with `m` columns. -/
theorem Mixture.evaluateTable_empty {t : Table α} (hcols : t.cols = m)
    (hrows : t.rows < Capacity.entries) :
    (Mixture.empty m).evaluateTable t = .ok (Vector.replicate t.rows 0) := by
  rw [evaluateTable, dif_pos hcols]
  exact evaluate_empty hrows _

end Empty

section Fit

variable [Zero α] [Add α] [Mul α] [Neg α] [LT α] [LE α] [DecidableLT α]
  [DecidableLE α] [Scalar α]
variable [RandomSource γ α]

omit [Neg α] in
theorem sampleCandidates_nil {sigma : α} (hsigma : isWidth sigma = true)
    (count : Nat) (g : γ) :
    sampleCandidates ([] : List (Component α m)) count sigma g = .ok ([], g) := by
  rw [sampleCandidates, if_pos hsigma]
  rfl

namespace Fit

/-- The snapshot of step `i` if it begins without components: no accepted
candidates, and the solver's answer for a design without columns. -/
def idle (o : Observations α) (solver : LeastSquares.Solver α) (i : Nat) :
    Snapshot α o.dims where
  step := i
  mixture := .empty o.dims
  accepted := 0
  residual := (solver.solve (o.design [])).residual
  converged := (solver.solve (o.design [])).converged

variable {o : Observations α} {config : FitConfig α}

/-- **A step without components** completes with `idle`, draws nothing and
leaves nothing. -/
theorem step_empty {solver : LeastSquares.Solver α} (hsigma : isWidth config.sigma = true)
    (hsolver : (solver.solve (o.design [])).coefficients.length = 0) (i : Nat) (g : γ) :
    step o config solver i (.empty o.dims) g = .ok (idle o solver i, g) := by
  refine step_eq_ok_iff.mpr
    ⟨[], .empty o.dims, sampleCandidates_nil hsigma _ g, o.hasRoom_zero solver, ?_, rfl⟩
  show prune [] (solver.solve (o.design [])).coefficients = .ok (.empty o.dims)
  rw [List.eq_nil_of_length_eq_zero hsolver]
  rfl

variable {solver : Nat → LeastSquares.Solver α} {start : Mixture α o.dims}
  {steps : List (Snapshot α o.dims)}
variable {stream : Nat → γ}

/-- **Empty mixtures stay empty.** Let `steps` be the steps of a fit and
`stream` the streams that they begin with, by number. Behind an empty mixture
there are only `idle` steps, and the stream stands still. By induction from `i`
to `j`. -/
theorem stays_empty (hsigma : isWidth config.sigma = true)
    (hsolver : ∀ j, ((solver j).solve (o.design [])).coefficients.length = 0)
    (hsteps : ∀ j x s g', (start :: steps.map Snapshot.mixture)[j]? = some x →
      j < config.maxSteps → step o config (solver j) j x (stream j) = .ok (s, g') →
      steps[j]? = some s ∧ g' = stream (j + 1))
    {i : Nat}
    (hempty : (start :: steps.map Snapshot.mixture)[i]? = some (.empty o.dims))
    {j : Nat} (hij : i ≤ j) (hj : j ≤ config.maxSteps) :
    (start :: steps.map Snapshot.mixture)[j]? = some (.empty o.dims) ∧
      stream j = stream i ∧
      (j < config.maxSteps → steps[j]? = some (idle o (solver j) j) ∧
        stream (j + 1) = stream j) := by
  have hidle : ∀ j, (start :: steps.map Snapshot.mixture)[j]? = some (.empty o.dims) →
      j < config.maxSteps →
      steps[j]? = some (idle o (solver j) j) ∧ stream (j + 1) = stream j := by
    intro j hx hlt
    obtain ⟨hnext, hsame⟩ :=
      hsteps j _ _ _ hx hlt (step_empty hsigma (hsolver j) j (stream j))
    exact ⟨hnext, hsame.symm⟩
  have honward : (start :: steps.map Snapshot.mixture)[j]? = some (.empty o.dims) ∧
      stream j = stream i := by
    induction j, hij using Nat.le_induction with
    | base => exact ⟨hempty, rfl⟩
    | succ j _ ih =>
      obtain ⟨hx, hstream⟩ := ih (Nat.le_of_succ_le hj)
      obtain ⟨hnext, hsame⟩ := hidle j hx hj
      refine ⟨?_, hsame.trans hstream⟩
      rw [List.getElem?_cons_succ, List.getElem?_map, hnext]
      rfl
  exact ⟨honward.1, honward.2, hidle j honward.1⟩

end Fit

variable [One α] [Div α] [NatCast α]

/-- **Extinction is permanent.** Let the solver answer with one coefficient per
column. If some step of a fit leaves no components, then all steps behind it are
`idle`: they begin without components, take nothing from the stream and accept
no candidates, hand a design without columns to the solver and leave no
components. All `maxSteps` steps are taken and reported nevertheless, and the
fit succeeds with the empty mixture over the signal's columns, which predicts
zeros on every signal. -/
theorem adaptiveFit_extinct (signal : Table α) (target : List α) (o : Observations α)
    (hobservations : Observations.ofTable signal target = .ok o) (config : FitConfig α)
    (solver : Nat → LeastSquares.Solver α)
    (hsolver : ∀ (j : Nat) {n k : Nat} (d : LeastSquares.Design α n k),
      ((solver j).solve d).coefficients.length = k)
    (g : γ) (observe : σ → Snapshot α o.dims → σ) (seen : σ) (i : Nat)
    (s : Snapshot α o.dims) (hs : (completedSteps o config solver g)[i]? = some s)
    (hempty : s.mixture.isEmpty = true) :
    o.dims = signal.cols ∧
    ∃ (steps : List (Snapshot α o.dims)) (start : Mixture α o.dims) (stream : Nat → γ)
      (r : FitOutcome α γ σ o.dims),
      steps = completedSteps o config solver g ∧
      r = adaptiveFit o config solver g observe seen ∧
      config.initialMixture o.dims = .ok start ∧ stream 0 = g ∧
      (∀ j x s', (start :: steps.map Snapshot.mixture)[j]? = some x →
          steps[j]? = some s' →
        Fit.step o config (solver j) j x (stream j) = .ok (s', stream (j + 1))) ∧
      (∀ j, i < j → j < config.maxSteps →
        (start :: steps.map Snapshot.mixture)[j]? = some (.empty o.dims) ∧
        sampleCandidates (Mixture.empty o.dims).components config.newCenters
            config.sigma (stream j) =
          .ok ([], stream j) ∧
        steps[j]? = some (Fit.idle o (solver j) j) ∧ stream (j + 1) = stream j) ∧
      steps.length = config.maxSteps ∧ r.observed = steps.foldl observe seen ∧
      r.stream = stream (i + 1) ∧
      r.result = .ok (.empty o.dims) ∧
      (∀ {n : Nat} (signal' : Vector (Vector α o.dims) n),
        predict (Mixture.empty o.dims).components signal' = Vector.replicate n 0 ∧
        (n < Capacity.entries →
          (Mixture.empty (α := α) o.dims).evaluate signal' =
            .ok (Vector.replicate n 0))) ∧
      ∀ t : Table α, t.cols = o.dims → t.rows < Capacity.entries →
        (Mixture.empty o.dims).evaluateTable t = .ok (Vector.replicate t.rows 0) := by
  refine ⟨Observations.dims_of_ofTable hobservations, ?_⟩
  cases hstart : config.validate *> config.initialMixture o.dims with
  | error fault =>
    rw [completedSteps, adaptiveFit_refused hstart] at hs
    cases hs
  | ok start =>
    have hsigma := (FitConfig.validate_eq_ok (FitConfig.of_accepted hstart).1).2.1
    obtain ⟨stream, result, hfirst, hcount, hfit, hresult, hsteps⟩ :=
      adaptiveFit_steps hstart solver g
    obtain ⟨capped, hrun⟩ := hfit observe seen
    generalize completedSteps o config solver g = steps at *
    have hi : i < config.maxSteps := (List.getElem?_eq_some_iff.mp hs).1.trans_le hcount
    have hnext : (start :: steps.map Snapshot.mixture)[i + 1]? =
        some (.empty o.dims) := by
      rw [List.getElem?_cons_succ, List.getElem?_map, hs, ← Mixture.eq_empty hempty]
      rfl
    -- from the mixture that step `i` leaves on, all are empty
    have honward := fun {j} =>
      Fit.stays_empty (j := j) hsigma (fun j => hsolver j (o.design []))
      (fun j x s g' hx hj => ((hsteps j x hx hj).1 s g').mp) hnext
    obtain ⟨hlast, hend, -⟩ := honward hi le_rfl
    -- there is a mixture behind the last step, so all steps have been taken
    have hlength : steps.length = config.maxSteps := by
      have hlt := (List.getElem?_eq_some_iff.mp hlast).1
      rw [List.length_cons, List.length_map] at hlt
      omega
    refine ⟨steps, start, stream, _, rfl, hrun.symm,
      (FitConfig.of_accepted hstart).2, hfirst, ?_, ?_, hlength, rfl, ?_, ?_,
      fun signal' => ⟨predict_nil signal', fun hrows => Mixture.evaluate_empty hrows _⟩,
      fun t => Mixture.evaluateTable_empty⟩
    · intro j x s' hx hs'
      have hj : j < config.maxSteps :=
        (List.getElem?_eq_some_iff.mp hs').1.trans_le hcount
      exact ((hsteps j x hx hj).1 _ _).mpr ⟨hs', rfl⟩
    · intro j hij hj
      obtain ⟨hx, -, hidle⟩ := honward hij hj.le
      exact ⟨hx, sampleCandidates_nil hsigma _ _, hidle hj⟩
    · rw [hlength]
      exact hend
    · refine (hresult _).mpr ⟨hlength, ?_⟩
      rw [List.getLast?_eq_getElem?, List.length_cons, List.length_map, hlength]
      exact hlast

end Fit

/-- A solver that answers with zeros lets the first of three steps be the last
one that draws. -/
theorem adaptiveFit_extinct_useless :
    ∃ s, (completedSteps singleObservations (shortSearch.withSteps 3)
          (fun _ => constantSolver 0.0) shortDraws)[0]? = some s ∧
      s.mixture.isEmpty = true ∧
      (completedSteps singleObservations (shortSearch.withSteps 3)
          (fun _ => constantSolver 0.0) shortDraws)[2]? =
        some (Fit.idle singleObservations (constantSolver 0.0) 2) ∧
      (adaptiveFit singleObservations (shortSearch.withSteps 3)
        (fun _ => constantSolver 0.0) shortDraws (fun count _ => count + 1) 0).observed =
        3 ∧
      (adaptiveFit singleObservations (shortSearch.withSteps 3)
        (fun _ => constantSolver 0.0) shortDraws (fun count _ => count + 1) 0).result =
        .ok (.empty 1) ∧
      (adaptiveFit singleObservations (shortSearch.withSteps 3)
        (fun _ => constantSolver 0.0) shortDraws
        (fun count _ => count + 1) 0).stream.rest = [0.0, 0.5, 0.0, 1.0] := by
  have hfirst : (completedSteps singleObservations (shortSearch.withSteps 3)
      (fun _ => constantSolver 0.0) shortDraws)[0]?.any
      (fun s => s.mixture.isEmpty) = true := by
    decide +kernel
  obtain ⟨s, hs, hempty⟩ := (Option.any_eq_true _ _).mp hfirst
  obtain ⟨-, _, _, stream, _, rfl, rfl, -, -, -, hidle, hlength,
      hobserved, -, hresult, -⟩ :=
    adaptiveFit_extinct singleAudience [0.5] singleObservations rfl
      (shortSearch.withSteps 3) (fun _ => constantSolver 0.0)
      (fun _ _ _ _ => List.length_replicate) shortDraws
      (fun count _ => count + 1) 0 0 s hs hempty
  refine ⟨s, hs, hempty, (hidle 2 (by decide) (by decide)).2.2.1, ?_,
    hresult, by decide +kernel⟩
  rw [hobserved, List.foldl_add_const, hlength]
  rfl

end ReachMixture
