import ReachMixture.Proofs.LeastSquares.Convergence

/-!
# Columns are never refused

A column is refused if its own coefficient comes out of its first trial without
being positive. In exact arithmetic this does not happen, whichever solution of
the normal equations a trial gives: at an accepted point the slope towards the
trial is the slope of the column that entered, times its coefficient, and this
product is a squared distance. Refusals guard against rounding and nothing else.

- `Setting.unguardedStage`: the run of a method that never refuses a column.
- `Verdict.Unblocked`: what a run keeps from stage to stage. No column is
  blocked, also where the run is stuck.
- `column_never_refused`: **the guard is never used**, and the run is that of
  the method without it.
-/

namespace ReachMixture.LeastSquares.ActiveSet

variable {α : Type} {n k : Nat}

section Unguarded

variable [Zero α] [One α] [Add α] [Sub α] [Mul α] [Div α] [LT α] [LE α]
  [DecidableLT α] [DecidableLE α]
variable [Scalar α]

/-- `judge` without the guard: a trial becomes the point, or the point retreats. -/
def Setting.unguardedJudge (t : Setting α n k) (s : State α k) (column : Fin k) :
    Option (Vector α k) → Verdict α k
  | none => .stuck (s.leave column)
  | some z =>
    if s.free.all fun i => 0 < z.get i then t.choose (s.accept z)
    else .pending (.retreat s column z)

/-- `next` without the guard. -/
def Setting.unguardedNext (t : Setting α n k) : Verdict α k → Verdict α k
  | .pending p => t.unguardedJudge p.tried p.column (t.trial p.tried)
  | v => v

/-- Where the run without a cap and without refusals stands after `m`
iterations. -/
def Setting.unguardedStage (t : Setting α n k) (m : Nat) : Verdict α k :=
  t.unguardedNext^[m] (t.choose (.start k))

/-- An iteration is the same without the guard, unless the guard is used. -/
theorem Setting.advance_eq_unguarded (t : Setting α n k) {p : Pending α k}
    (h : ∀ z, t.trial p.tried = some z → p.isFirst = true → ¬ z.get p.column ≤ 0) :
    t.advance p = t.unguardedNext (.pending p) := by
  rw [t.advance_eq_judge]
  show _ = t.unguardedJudge p.tried p.column (t.trial p.tried)
  cases htrial : t.trial p.tried with
  | none => rfl
  | some z =>
    have hguard : (p.isFirst && decide (z.get p.column ≤ 0)) = false := by
      rw [Bool.and_eq_false_imp, decide_eq_false_iff_not]
      exact h z htrial
    simp only [judge, unguardedJudge, hguard, Bool.false_eq_true, if_false]

end Unguarded

variable [Field α] [LinearOrder α] [Scalar α]

/-- What a run keeps from stage to stage: it is `Descending`, and no column is
blocked. -/
def Verdict.Unblocked (d : Design α n k) (v : Verdict α k) : Prop :=
  (∃ last, v.Descending d last) ∧ ∀ i, v.state.blocked.get i = false

variable [IsStrictOrderedRing α] [ExactScalar α]
  {inner : PassiveSolve α} {d : Design α n k}

theorem choose_unblocked {s : State α k} (h : s.Settled d) :
    ((Setting.ofDesign inner d).choose s).Unblocked d := by
  refine ⟨⟨s, choose_descending h⟩, fun i => ?_⟩
  rw [Setting.choose_state]
  exact h.unblocked i

/-- **One iteration blocks no column**, whichever solution of the normal
equations the trial is. -/
theorem advance_unblocked (hexact : inner.Exact d) {p : Pending α k}
    (h : (Verdict.pending p).Unblocked d) :
    ((Setting.ofDesign inner d).advance p).Unblocked d := by
  obtain ⟨⟨last, hlast⟩, hblocked⟩ := h
  have htried : ∀ i, p.tried.blocked.get i = false := by
    rw [p.tried_blocked]
    exact hblocked
  cases Setting.descent hexact hlast with
  | stuck _ hv =>
    rw [hv]
    exact ⟨⟨last, trivial⟩, htried⟩
  | accept z _ _ hsettled _ hv =>
    rw [hv]
    exact choose_unblocked hsettled
  | retreat z _ hnot hpromising hv =>
    rw [hv]
    exact ⟨⟨last, hpromising, hnot.imp fun i hi => ⟨hi.1, not_lt.mp hi.2⟩⟩, htried⟩

/-- No column is blocked at **any stage**. By induction on `m`. -/
theorem stage_unblocked (hexact : inner.Exact d) (m : Nat) :
    ((Setting.ofDesign inner d).stage m).Unblocked d :=
  (Setting.ofDesign inner d).stage_invariant (choose_unblocked (State.start_settled d))
    (fun _ => advance_unblocked hexact) m

/-- The first trial after a column entered gives it a positive coefficient. -/
theorem first_trial_pos (hexact : inner.Exact d) {m : Nat} {p : Pending α k}
    {z : Vector α k} (hp : (Setting.ofDesign inner d).stage m = .pending p)
    (hz : (Setting.ofDesign inner d).trial p.tried = some z)
    (hfirst : p.isFirst = true) : 0 < z.get p.column := by
  obtain ⟨⟨last, hlast⟩, -⟩ := stage_unblocked hexact m
  rw [hp] at hlast
  exact (Pending.tried_promising hlast (hexact _ z p.tried.free_sublist hz)).2 hfirst

/-- `stage` and `unguardedStage` agree. By induction on `m`. -/
theorem stage_eq_unguardedStage (hexact : inner.Exact d) (m : Nat) :
    (Setting.ofDesign inner d).stage m = (Setting.ofDesign inner d).unguardedStage m := by
  induction m with
  | zero => rfl
  | succ m ih =>
    rw [Setting.stage_succ, Setting.unguardedStage, Function.iterate_succ_apply']
    show _ = (Setting.ofDesign inner d).unguardedNext
      ((Setting.ofDesign inner d).unguardedStage m)
    rw [← ih]
    cases hv : (Setting.ofDesign inner d).stage m with
    | converged s => rfl
    | stuck s => rfl
    | pending p =>
      exact (Setting.ofDesign inner d).advance_eq_unguarded fun z hz hfirst =>
        (first_trial_pos hexact hv hz hfirst).not_ge

/-- **Columns are never refused.** If every trial solves its normal equations,
no matter which of their solutions it is, then a column that enters is steeper
than the tolerance and comes out of its first trial with a positive coefficient.
Hence no column is ever `blocked`, neither on the way nor when the run ends,
whatever its cap is, and the run goes through the stages of the method that has
no such guard. -/
theorem column_never_refused (inner : PassiveSolve α) (d : Design α n k)
    (hexact : inner.Exact d) :
    (∀ m s j, (Setting.ofDesign inner d).stage m = .pending (.enter s j) →
      d.tolerance < (d.gradient s.point).get j ∧
        ∀ z, (Setting.ofDesign inner d).trial (s.enter j) = some z → 0 < z.get j) ∧
    (∀ m i, ((Setting.ofDesign inner d).stage m).state.blocked.get i = false) ∧
    (∀ cap i, (solve inner cap d).state.blocked.get i = false) ∧
    ∀ m, (Setting.ofDesign inner d).stage m =
      (Setting.ofDesign inner d).unguardedStage m := by
  have hblocked : ∀ m i, ((Setting.ofDesign inner d).stage m).state.blocked.get i =
      false :=
    fun m => (stage_unblocked hexact m).2
  refine ⟨fun m s j hp => ⟨?_, fun z hz => ?_⟩, hblocked, fun cap i => ?_,
    stage_eq_unguardedStage hexact⟩
  · obtain ⟨⟨last, hlast⟩, -⟩ := stage_unblocked hexact m
    rw [hp] at hlast
    exact hlast.2.2.2
  · exact first_trial_pos hexact hp hz rfl
  · rw [solve_state]
    exact hblocked cap i

deriving instance DecidableEq for State, Pending, Verdict

/-- The longer column of `skewDesign` enters first, and the other one after it.
Although the first trial with both of them is negative at the column that was
there before, it is positive at the one that entered. -/
theorem column_never_refused_skew :
    ∃ (s : State ℚ 2) (z : Vector ℚ 2), (Setting.ofDesign ratSolve skewDesign).stage 1 =
        .pending (.enter s 0) ∧
      (Setting.ofDesign ratSolve skewDesign).trial (s.enter 0) = some z ∧
      z.get 1 < 0 ∧ 0 < z.get 0 ∧
      skewDesign.tolerance < (skewDesign.gradient s.point).get 0 ∧
      ∀ cap i, (solve ratSolve cap skewDesign).state.blocked.get i = false := by
  obtain ⟨henters, -, hblocked, -⟩ :=
    column_never_refused ratSolve skewDesign ratSolve_exact
  have hstage : (Setting.ofDesign ratSolve skewDesign).stage 1 =
      .pending (.enter ⟨#v[0, 26 / 25], #v[false, true], #v[false, false]⟩ 0) := by
    decide +kernel
  obtain ⟨hsteep, hpos⟩ := henters 1 _ 0 hstage
  have htrial : (Setting.ofDesign ratSolve skewDesign).trial
      (State.enter ⟨#v[0, 26 / 25], #v[false, true], #v[false, false]⟩ 0) =
        some #v[43 / 4, -1 / 4] := by
    decide +kernel
  exact ⟨_, _, hstage, htrial, by decide +kernel, hpos _ htrial, hsteep, hblocked⟩

end ReachMixture.LeastSquares.ActiveSet
