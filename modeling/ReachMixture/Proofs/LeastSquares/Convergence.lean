import ReachMixture.LeastSquares.Solver
import ReachMixture.Proofs.LeastSquares.Descent

/-!
# Convergence of active-set runs

In exact arithmetic, with trials that solve their normal equations, the
active-set method ends, and it ends at an optimum up to its tolerance.

- `History`: what a run has behind it at a stage. Accepted points are ever
  cheaper, and there are enough of them for the iterations spent.
- `exists_settled_of_converged`, `optimal_of_converged`: a converged answer is
  an accepted point, and it is optimal up to the tolerance.
- `converges_within`: there are at most `2 ^ k` accepted points and `k + 1`
  iterations between two of them, so a run whose cap allows for as much
  converges.
-/

namespace ReachMixture.LeastSquares

/-- Every selection of columns gets an answer. -/
def PassiveSolve.Total {α : Type} {n k : Nat} [Zero α] [Add α] [Mul α]
    (inner : PassiveSolve α) (d : Design α n k) : Prop :=
  ∀ idx, idx.Sublist (List.finRange k) → ∃ z, inner.trial d d.normal idx = some z

namespace ActiveSet

variable {α : Type} {n k : Nat}

/-- A bound on the trials until a point is accepted: `k + 1` when a column
enters, since a trial then has at most `k` passive columns and every further one
has fewer than the one before. -/
def Pending.allowance : Pending α k → Nat
  | .enter _ _ => k + 1
  | .retreat s _ _ => s.free.length

variable [Field α] [LinearOrder α] [Scalar α]

/-- What a run has behind it after `m` iterations: the accepted states with the
latest first, each `Settled` and cheaper than those before. There is one for
every `k + 1` iterations, the pending ones included. -/
structure History (d : Design α n k) (m : Nat) (last : State α k)
    (older : List (State α k)) (v : Verdict α k) : Prop where
  settled : ∀ s ∈ last :: older, s.Settled d
  decreasing : (last :: older).Pairwise fun s s' => d.cost s.point < d.cost s'.point
  current : v.Descending d last
  spent : ∀ p, v = .pending p → m + p.allowance ≤ (older.length + 1) * (k + 1)

/-- The trial of an iteration has fewer passive columns than its `allowance`. -/
theorem Pending.free_lt_allowance {d : Design α n k} {last : State α k} {p : Pending α k}
    (h : (Verdict.pending p).Descending d last) :
    p.tried.free.length < p.allowance := by
  cases p with
  | enter s j =>
    have hle := (s.enter j).free_sublist.length_le
    rw [List.length_finRange] at hle
    exact Nat.lt_succ_of_le hle
  | retreat s j z =>
    obtain ⟨-, i, hi, -⟩ := h
    exact State.free_retreat_lt le_rfl z (List.ne_nil_of_mem (State.mem_free.mpr hi))

omit [Scalar α] in
/-- A column that is about to enter has the full `allowance`. -/
theorem Pending.allowance_of_choose {t : Setting α n k} {s : State α k} {p : Pending α k}
    (h : t.choose s = .pending p) : p.allowance = k + 1 := by
  cases t.choice s with
  | converged _ hv => exact nomatch hv.symm.trans h
  | enter j _ hv =>
    cases hv.symm.trans h
    rfl

variable [IsStrictOrderedRing α]

omit [Scalar α] in
/-- A `Settled` point costs no more than any other one with the same passive
columns. -/
theorem State.Settled.cost_le {d : Design α n k} {s s' : State α k} (h : s.Settled d)
    (h' : s'.Settled d) (hfree : s.free = s'.free) :
    d.cost s.point ≤ d.cost s'.point := by
  have hflat : ∀ j, (d.gradient s.point).get j *
      (s'.point.get j - s.point.get j) = 0 := by
    intro j
    cases hj : s.passive.get j with
    | true => rw [h.stationary j hj, zero_mul]
    | false =>
      have hj' : s'.passive.get j = false := by
        rw [← Bool.not_eq_true, ← State.mem_free, ← hfree, State.mem_free, hj]
        exact Bool.false_ne_true
      rw [h.zero j hj, h'.zero j hj', sub_self, mul_zero]
  rw [d.cost_eq_add_gap hflat]
  exact le_add_of_nonneg_right (d.gap_nonneg _ _)

namespace History

variable {d : Design α n k} {m : Nat} {last : State α k}
  {older : List (State α k)} {v : Verdict α k}

/-- No two accepted points have the same passive columns, since their costs
differ. -/
theorem nodup (h : History d m last older v) :
    ((last :: older).map State.free).Nodup := by
  rw [List.Nodup, List.pairwise_map]
  refine h.decreasing.imp_of_mem fun {s s'} hs hs' hlt hfree => hlt.not_ge ?_
  exact (h.settled s' hs').cost_le (h.settled s hs) hfree.symm

/-- There are at most `2 ^ k` accepted points, one for each selection of
columns. -/
theorem length_le (h : History d m last older v) : older.length + 1 ≤ 2 ^ k := by
  have hsub : (last :: older).map State.free ⊆ (List.finRange k).sublists := by
    intro idx hidx
    obtain ⟨s, -, rfl⟩ := List.mem_map.mp hidx
    exact List.mem_sublists.mpr s.free_sublist
  have hle := (h.nodup.subperm hsub).length_le
  rwa [List.length_map, List.length_cons, List.length_sublists,
    List.length_finRange] at hle

variable [ExactScalar α] {inner : PassiveSolve α}

/-- **One iteration** keeps the history or adds the point that it accepts. -/
theorem advance (hinner : inner.Exact d) {p : Pending α k}
    (h : History d m last older (.pending p)) :
    ∃ last' older',
      (((Setting.ofDesign inner d).accepted? (.pending p)).toList ++ last :: older) =
        last' :: older' ∧
      History d (m + 1) last' older' ((Setting.ofDesign inner d).advance p) := by
  have hspent := h.spent p rfl
  have hlt := Pending.free_lt_allowance h.current
  cases Setting.descent hinner h.current with
  | stuck htrial hv =>
    have hnone : (Setting.ofDesign inner d).accepted? (.pending p) = none :=
      Setting.accepted_of_not_pos _ fun z hz => nomatch htrial.symm.trans hz
    rw [hnone, hv]
    exact ⟨last, older, rfl, h.settled, h.decreasing, trivial, fun p hp => nomatch hp⟩
  | accept z htrial hpos hsettled hcost hv =>
    rw [Setting.accepted_of_pos _ htrial hpos, hv]
    refine ⟨p.tried.accept z, last :: older, rfl, ?_, ?_, choose_descending hsettled, ?_⟩
    · exact List.forall_mem_cons.mpr ⟨hsettled, h.settled⟩
    · refine List.pairwise_cons.mpr ⟨fun s hs => ?_, h.decreasing⟩
      rcases List.mem_cons.mp hs with rfl | hs
      · exact hcost
      · exact hcost.trans ((List.pairwise_cons.mp h.decreasing).1 s hs)
    · intro p' hp'
      -- the accepted point pays for a full allowance, and an iteration is left
      -- over from the last one
      rw [Pending.allowance_of_choose hp', List.length_cons,
        Nat.succ_mul (older.length + 1)]
      omega
  | retreat z htrial hnot hpromising hv =>
    have hnone : (Setting.ofDesign inner d).accepted? (.pending p) = none :=
      Setting.accepted_of_not_pos _ fun z' hz' => by
        cases htrial.symm.trans hz'
        exact hnot
    rw [hnone, hv]
    refine ⟨last, older, rfl, h.settled, h.decreasing, ⟨hpromising, ?_⟩, fun p' hp' => ?_⟩
    · exact hnot.imp fun i hi => ⟨hi.1, not_lt.mp hi.2⟩
    · cases hp'
      show m + 1 + p.tried.free.length ≤ _
      omega

/-- **Every stage** of a run has a `History`. By induction on `m`. -/
theorem stage (hinner : inner.Exact d) (m : Nat) :
    ∃ last older, (Setting.ofDesign inner d).history m = last :: older ∧
      History d m last older ((Setting.ofDesign inner d).stage m) := by
  -- a run that has ended neither accepts anything nor spends iterations, so
  -- only pending stages matter
  induction m with
  | zero =>
    refine ⟨.start k, [], rfl, ?_, List.pairwise_singleton _ _,
      choose_descending (State.start_settled d), ?_⟩
    · exact List.forall_mem_singleton.mpr (State.start_settled d)
    · intro p hp
      rw [Pending.allowance_of_choose hp, List.length_nil]
      omega
  | succ m ih =>
    obtain ⟨last, older, hhistory, h⟩ := ih
    rw [Setting.history, Setting.stage_succ, hhistory]
    cases hv : (Setting.ofDesign inner d).stage m with
    | converged s =>
      rw [hv] at h
      exact ⟨last, older, rfl, h.settled, h.decreasing, h.current, fun p hp => nomatch hp⟩
    | stuck s =>
      rw [hv] at h
      exact ⟨last, older, rfl, h.settled, h.decreasing, h.current, fun p hp => nomatch hp⟩
    | pending p =>
      rw [hv] at h
      exact h.advance hinner

end History

/-! ## Answers -/

variable [ExactScalar α]

/-- **A converged answer** is the point of a `Settled` state with no column
steeper than the tolerance. So no nonnegative coefficients are cheaper by more
than twice the tolerance for each unit of their total. -/
theorem exists_settled_of_converged {inner : PassiveSolve α}
    {cap : Nat} {d : Design α n k} (hexact : inner.Exact d)
    (hconverged : ((activeSet inner cap).solve d).converged = true) :
    ∃ s : State α k, ((activeSet inner cap).solve d).coefficients = s.point.toList ∧
      s.Settled d ∧ (∀ j, (d.gradient s.point).get j ≤ d.tolerance) ∧
      ∀ y : Vector α k, (∀ i, 0 ≤ y.get i) →
        d.cost s.point ≤ d.cost y + 2 * d.tolerance * ∑ j, y.get j := by
  obtain ⟨s, hs⟩ := activeSet_converged.mp hconverged
  obtain ⟨last, older, -, h⟩ := History.stage hexact cap
  have hdescending := h.current
  rw [hs] at hdescending
  obtain ⟨-, hsettled, hle⟩ := hdescending
  refine ⟨s, ?_, hsettled, hle, fun y hy => d.cost_le_of_gradient_le (fun j => ?_) hle hy⟩
  · rw [activeSet_coefficients, hs]
    rfl
  · -- passive columns are stationary, and the others have no coefficient
    cases hj : s.passive.get j with
    | true => rw [hsettled.stationary j hj, zero_mul]
    | false => rw [hsettled.zero j hj, mul_zero]

/-- **Optimality on convergence.** If every trial solves its normal equations
and the solver reports `converged`, then its coefficients are not negative, the
gradient vanishes where they are positive, and no column at all, blocked before
or not, is steeper than `d.tolerance`. Hence no nonnegative coefficients are
cheaper by more than twice the tolerance for each unit of their total. -/
theorem optimal_of_converged (inner : PassiveSolve α) (cap : Nat) (d : Design α n k)
    (hexact : inner.Exact d)
    (hconverged : ((activeSet inner cap).solve d).converged = true) :
    ∃ x : Vector α k, ((activeSet inner cap).solve d).coefficients = x.toList ∧
      (∀ i, 0 ≤ x.get i) ∧ (∀ i, 0 < x.get i → (d.gradient x).get i = 0) ∧
      (∀ j, (d.gradient x).get j ≤ d.tolerance) ∧
      ∀ y : Vector α k, (∀ i, 0 ≤ y.get i) →
        d.cost x ≤ d.cost y + 2 * d.tolerance * ∑ j, y.get j := by
  obtain ⟨s, hs, hsettled, hle, hoptimal⟩ := exists_settled_of_converged hexact hconverged
  refine ⟨s.point, hs, fun j => not_lt.mp (hsettled.feasible.nonneg j),
    fun j hpos => ?_, hle, hoptimal⟩
  cases hj : s.passive.get j with
  | true => exact hsettled.stationary j hj
  | false => exact absurd (hsettled.zero j hj) hpos.ne'

/-- Two columns of which the longer enters first, and has to leave again once
the other one is free. -/
def skewDesign : Design ℚ 2 2 := ⟨#v[#v[1, 0], #v[3, 4]], #v[10, -1]⟩

/-- `gramSolve` over `ℚ` without a fallback. -/
def ratSolve : PassiveSolve ℚ := gramSolve fun _ => none

theorem ratSolve_exact : ratSolve.Exact skewDesign := by
  have h : ∀ idx ∈ (List.finRange 2).sublists,
      ∀ z ∈ ratSolve.trial skewDesign skewDesign.normal idx,
      skewDesign.normal.SolvedOn idx z := by decide +kernel
  exact fun idx z hidx hz => h idx (List.mem_sublists.mpr hidx) z hz

/-- Three trials of `skewDesign`, the last one after a retreat, reach the
optimum `(10, 0)`. -/
theorem optimal_of_converged_skew :
    ((activeSet ratSolve 3).solve skewDesign).converged = true ∧
    ((activeSet ratSolve 3).solve skewDesign).coefficients = [10, 0] ∧
    ∀ y : Vector ℚ 2, (∀ i, 0 ≤ y.get i) →
      skewDesign.cost #v[10, 0] ≤
        skewDesign.cost y + 2 * skewDesign.tolerance * ∑ j, y.get j := by
  have hconverged : ((activeSet ratSolve 3).solve skewDesign).converged =
      true := by decide +kernel
  have hcoefficients : ((activeSet ratSolve 3).solve skewDesign).coefficients =
      [10, 0] := by
    decide +kernel
  obtain ⟨x, hx, -, -, -, hoptimal⟩ :=
    optimal_of_converged ratSolve 3 skewDesign ratSolve_exact hconverged
  have hpoint : x = #v[10, 0] := Vector.toList_inj.mp (hx.symm.trans hcoefficients)
  exact ⟨hconverged, hcoefficients, hpoint ▸ hoptimal⟩

omit [IsStrictOrderedRing α] [ExactScalar α] in
/-- A run with a `Total` inner solver is never stuck. -/
theorem stage_ne_stuck {inner : PassiveSolve α} {d : Design α n k}
    (htotal : inner.Total d) (m : Nat) (s : State α k) :
    (Setting.ofDesign inner d).stage m ≠ .stuck s := by
  have hchoose := (Setting.ofDesign inner d).choose_ne_stuck
  refine (Setting.ofDesign inner d).stage_invariant (P := fun v => ∀ s, v ≠ .stuck s)
    (hchoose _) (fun p _ s h => ?_) m s
  cases (Setting.ofDesign inner d).advance_spec p with
  | stuck htrial _ =>
    obtain ⟨z, hz⟩ := htotal _ p.tried.free_sublist
    exact nomatch htrial.symm.trans hz
  | accept _ _ _ hv => exact hchoose _ s (hv.symm.trans h)
  | refuse _ _ _ _ hv => exact hchoose _ s (hv.symm.trans h)
  | retreat _ _ _ _ hv => exact nomatch hv.symm.trans h

/-- By `(k + 1) * 2 ^ k` iterations the run has converged. -/
theorem stage_converged {inner : PassiveSolve α} {d : Design α n k}
    (hexact : inner.Exact d) (htotal : inner.Total d) :
    ∃ s, (Setting.ofDesign inner d).stage ((k + 1) * 2 ^ k) = .converged s := by
  obtain ⟨last, older, -, h⟩ := History.stage hexact ((k + 1) * 2 ^ k)
  cases hv : (Setting.ofDesign inner d).stage ((k + 1) * 2 ^ k) with
  | converged s => exact ⟨s, rfl⟩
  | stuck s => exact absurd hv (stage_ne_stuck htotal _ s)
  | pending p =>
    -- a trial that is still pending has used up what all selections of columns
    -- together allow for
    rw [hv] at h
    have hspent := h.spent p rfl
    have hpos : 0 < p.allowance := Nat.zero_lt_of_lt (Pending.free_lt_allowance h.current)
    have hlength : (older.length + 1) * (k + 1) ≤ (k + 1) * 2 ^ k := by
      rw [Nat.mul_comm (k + 1)]
      exact Nat.mul_le_mul_right _ h.length_le
    omega

/-- **Finite convergence.** If every trial is answered and solves its normal
equations, then every accepted point is cheaper than those before, the start
included, so that no passive set is accepted twice. A run with a cap of
`(k + 1) * 2 ^ k` or more converges to the point accepted last, the same for all
such caps. -/
theorem converges_within (inner : PassiveSolve α) (d : Design α n k)
    (hexact : inner.Exact d) (htotal : inner.Total d) :
    (∀ m, (((Setting.ofDesign inner d).history m).map
      fun s => d.cost s.point).Pairwise (· < ·)) ∧
    (∀ m, (((Setting.ofDesign inner d).history m).map State.free).Nodup) ∧
    ∃ x : Vector α k, ∀ cap, (k + 1) * 2 ^ k ≤ cap →
      ((activeSet inner cap).solve d).converged = true ∧
      ((activeSet inner cap).solve d).coefficients = x.toList ∧
      ((Setting.ofDesign inner d).history cap).head?.map State.point = some x := by
  refine ⟨fun m => ?_, fun m => ?_, ?_⟩
  · obtain ⟨last, older, hhistory, h⟩ := History.stage hexact m
    rw [hhistory, List.pairwise_map]
    exact h.decreasing
  · obtain ⟨last, older, hhistory, h⟩ := History.stage hexact m
    rw [hhistory]
    exact h.nodup
  · obtain ⟨s, hs⟩ := stage_converged hexact htotal
    refine ⟨s.point, fun cap hcap => ?_⟩
    have hcapped := Setting.stage_of_converged hs hcap
    refine ⟨activeSet_converged.mpr ⟨s, hcapped⟩, ?_, ?_⟩
    · rw [activeSet_coefficients, hcapped]
      rfl
    · obtain ⟨last, older, hhistory, h⟩ := History.stage hexact cap
      have hdescending := h.current
      rw [hcapped] at hdescending
      rw [hhistory, hdescending.1]
      rfl

theorem ratSolve_total : ratSolve.Total skewDesign := by
  have h : ∀ idx ∈ (List.finRange 2).sublists,
      (ratSolve.trial skewDesign skewDesign.normal idx).isSome = true := by decide +kernel
  exact fun idx hidx => Option.isSome_iff_exists.mp (h idx (List.mem_sublists.mpr hidx))

/-- First the longer column of `skewDesign` is accepted, then the other one in
its place, and no cap from twelve on changes the answer. -/
theorem converges_within_skew :
    ((Setting.ofDesign ratSolve skewDesign).history 12).map State.free = [[0], [1], []] ∧
    (((Setting.ofDesign ratSolve skewDesign).history 12).map
      fun s => skewDesign.cost s.point).Pairwise (· < ·) ∧
    ∀ cap, 12 ≤ cap → ((activeSet ratSolve cap).solve skewDesign).converged = true ∧
      ((activeSet ratSolve cap).solve skewDesign).coefficients = [10, 0] := by
  obtain ⟨hdecreasing, -, x, hx⟩ :=
    converges_within ratSolve skewDesign ratSolve_exact ratSolve_total
  have hcoefficients : ((activeSet ratSolve 12).solve skewDesign).coefficients =
      [10, 0] := by
    decide +kernel
  have hpoint : x.toList = [10, 0] := (hx 12 le_rfl).2.1.symm.trans hcoefficients
  refine ⟨by decide +kernel, hdecreasing 12, fun cap hcap => ?_⟩
  obtain ⟨hconverged, hanswer, -⟩ := hx cap hcap
  exact ⟨hconverged, hanswer.trans hpoint⟩

end ActiveSet

end ReachMixture.LeastSquares
