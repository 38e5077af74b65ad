import ReachMixture.Proofs.LeastSquares.Refusal

/-!
# Progress of active-set runs

How many steps of each kind an active-set run can make, whatever its trials
answer and whatever its arithmetic does. Trials may be negative everywhere,
moves may lead nowhere and coefficients may be undefined, so there is no descent
to rely on. What guarantees progress is how columns are marked as passive and as
blocked. The one thing that this asks of numbers is that zero is at most zero: a
column that is set to zero has to be found there.

- `Verdict.Retreating`, `Setting.exists_retreats_end`: every retreat pins a
  column, so there are at most as many retreats in a row as there are passive
  columns.
- `Verdict.Bars`, `Setting.stage_bars`: a column that has entered does not enter
  again until a point is accepted.
- `Setting.Refuses`, `Setting.refusals_le`: hence at most as many columns are
  refused in a row as there are columns.
- `Setting.trials`: the trials that a run makes. `Setting.run_iterations` counts
  them, and `Setting.trials_of_ending` says how they end if the run does not
  converge.
- `progress_in_any_arithmetic`: all of this for the solver.
-/

namespace ReachMixture.LeastSquares.ActiveSet

variable {α : Type} {n k : Nat}

/-- The point is about to retreat. -/
def Verdict.Retreating : Verdict α k → Prop
  | .pending (.retreat _ _ _) => True
  | _ => False

theorem Verdict.retreating_iff {v : Verdict α k} : v.Retreating ↔
    ∃ s j z, v = .pending (.retreat s j z) := by
  constructor
  · intro h
    cases v with
    | converged s => exact h.elim
    | stuck s => exact h.elim
    | pending p =>
      cases p with
      | enter s j => exact h.elim
      | retreat s j z => exact ⟨s, j, z, rfl⟩
  · rintro ⟨s, j, z, rfl⟩
    trivial

/-- Column `j` does not enter before a point is accepted: it is blocked, or the
trials that it has led to are not over yet. -/
def Verdict.Bars (j : Fin k) : Verdict α k → Prop
  | .converged s => s.blocked.get j = true
  | .stuck _ => True
  | .pending (.enter s _) => s.blocked.get j = true
  | .pending (.retreat s i _) => s.blocked.get j = true ∨ i = j

section Steps

variable [Zero α] [One α] [Add α] [Sub α] [Mul α] [Div α] [LT α] [LE α]
  [DecidableLT α] [DecidableLE α]
variable [Scalar α] (t : Setting α n k)

/-! ## Retreats -/

omit [One α] [Div α] [LE α] [DecidableLE α] [Scalar α] in
theorem Setting.not_retreating_choose (s : State α k) : ¬ (t.choose s).Retreating := by
  cases t.choice s with
  | converged _ hv =>
    rw [hv]
    exact id
  | enter j _ hv =>
    rw [hv]
    exact id

/-- A retreat is due only at the state where a trial was made, and only if some
column was passive there. -/
theorem Setting.tried_of_advance {p : Pending α k} {s : State α k} {j : Fin k}
    {z : Vector α k} (h : t.advance p = .pending (.retreat s j z)) :
    s = p.tried ∧ s.free ≠ [] := by
  have hchoose : ∀ s', t.choose s' ≠ .pending (.retreat s j z) := fun s' heq =>
    t.not_retreating_choose s' (heq ▸ trivial)
  cases t.advance_spec p with
  | stuck _ hv => cases hv.symm.trans h
  | accept _ _ _ hv => exact absurd (hv.symm.trans h) (hchoose _)
  | refuse _ _ _ _ hv => exact absurd (hv.symm.trans h) (hchoose _)
  | retreat _ _ hnot _ hv =>
    cases hv.symm.trans h
    obtain ⟨i, hi, -⟩ := hnot
    exact ⟨rfl, List.ne_nil_of_mem (State.mem_free.mpr hi)⟩

theorem Setting.free_ne_nil_of_stage {m : Nat} {s : State α k} {j : Fin k}
    {z : Vector α k} (h : t.stage m = .pending (.retreat s j z)) : s.free ≠ [] := by
  refine t.stage_invariant
    (P := fun v => ∀ s j z, v = .pending (.retreat s j z) → s.free ≠ [])
    (fun s j z hv => ?_) (fun p _ s j z hv => (t.tried_of_advance hv).2) m s j z h
  exact absurd (hv ▸ trivial) (t.not_retreating_choose (.start k))

/-- **Retreats come to an end.** If at most `c` columns are passive when the
point is about to retreat, then there are at most `c` retreats before something
else happens. By induction on `c`, since every retreat pins a column. -/
theorem Setting.exists_retreats_end (h0 : (0 : α) ≤ 0) (c m : Nat)
    (hc : ∀ s j z, t.stage m = .pending (.retreat s j z) → s.free.length ≤ c) :
    ∃ r ≤ c, (∀ i < r, (t.stage (m + i)).Retreating) ∧
      ¬ (t.stage (m + r)).Retreating := by
  induction c generalizing m with
  | zero =>
    refine ⟨0, le_rfl, fun i hi => absurd hi i.not_lt_zero, fun hretreating => ?_⟩
    obtain ⟨s, j, z, hv⟩ := Verdict.retreating_iff.mp hretreating
    exact t.free_ne_nil_of_stage hv
      (List.eq_nil_of_length_eq_zero (Nat.le_zero.mp (hc s j z hv)))
  | succ c ih =>
    by_cases hretreating : (t.stage m).Retreating
    · obtain ⟨s, j, z, hv⟩ := Verdict.retreating_iff.mp hretreating
      -- the retreat pins a column, so the next one has fewer of them
      have hnext : ∀ s' j' z', t.stage (m + 1) = .pending (.retreat s' j' z') →
          s'.free.length ≤ c := by
        intro s' j' z' hv'
        rw [t.stage_succ, hv] at hv'
        obtain ⟨rfl, -⟩ := t.tried_of_advance (p := .retreat s j z) hv'
        have hlt := State.free_retreat_lt h0 z (t.free_ne_nil_of_stage hv)
        exact Nat.le_of_lt_succ (hlt.trans_le (hc s j z hv))
      obtain ⟨r, hr, hbefore, hafter⟩ := ih (m + 1) hnext
      refine ⟨r + 1, Nat.succ_le_succ hr, fun i hi => ?_, ?_⟩
      · cases i with
        | zero => exact hretreating
        | succ i =>
          rw [show m + (i + 1) = m + 1 + i by omega]
          exact hbefore i (Nat.lt_of_succ_lt_succ hi)
      · rw [show m + (r + 1) = m + 1 + r by omega]
        exact hafter
    · exact ⟨0, Nat.zero_le _, fun i hi => absurd hi i.not_lt_zero, hretreating⟩

/-! ## Columns that enter -/

/-- A column that is about to enter is not blocked. -/
theorem Setting.not_blocked_of_stage {m : Nat} {s : State α k} {j : Fin k}
    (h : t.stage m = .pending (.enter s j)) : s.blocked.get j = false := by
  have hchoose : ∀ s' s j, t.choose s' = .pending (.enter s j) →
      s.blocked.get j = false := by
    intro s' s j hv
    cases t.choice s' with
    | converged _ hv' => cases hv'.symm.trans hv
    | enter j' hj hv' =>
      cases hv'.symm.trans hv
      exact (State.of_entering hj).2.1
  refine t.stage_invariant (P := fun v => ∀ s j, v = .pending (.enter s j) →
    s.blocked.get j = false) (hchoose _) (fun p _ s j hv => ?_) m s j h
  cases t.advance_spec p with
  | stuck _ hv' => cases hv'.symm.trans hv
  | accept _ _ _ hv' => exact hchoose _ s j (hv'.symm.trans hv)
  | refuse _ _ _ _ hv' => exact hchoose _ s j (hv'.symm.trans hv)
  | retreat _ _ _ _ hv' => cases hv'.symm.trans hv

omit [One α] [Div α] [LE α] [DecidableLE α] [Scalar α] in
theorem Setting.choose_bars {s : State α k} {j : Fin k} (h : s.blocked.get j = true) :
    (t.choose s).Bars j := by
  cases t.choice s with
  | converged _ hv =>
    rw [hv]
    exact h
  | enter _ _ hv =>
    rw [hv]
    exact h

/-- **One iteration that accepts nothing** keeps `Bars j`, and it establishes
`Bars` of the column that it lets in. -/
theorem Setting.advance_bars {p : Pending α k} {j : Fin k}
    (hno : t.accepted? (.pending p) = none)
    (h : p.column = j ∨ (Verdict.pending p).Bars j) : (t.advance p).Bars j := by
  have htried : p.column = j ∨ p.tried.blocked.get j = true := by
    rw [p.tried_blocked]
    cases p with
    | enter s i => exact h
    | retreat s i z => exact h.elim .inl Or.symm
  -- only `accept` lifts a block, and it is excluded by `hno`
  cases t.advance_spec p with
  | stuck _ hv =>
    rw [hv]
    trivial
  | accept z hz hpos hv =>
    rw [t.accepted_of_pos hz hpos] at hno
    cases hno
  | refuse z _ _ _ hv =>
    rw [hv]
    apply t.choose_bars
    rw [State.block_blocked_get]
    by_cases hj : j = p.column
    · rw [if_pos hj]
    · rw [if_neg hj]
      exact htried.resolve_left (Ne.symm hj)
  | retreat z _ _ _ hv =>
    rw [hv]
    exact htried.symm

/-- **Until a point is accepted** a column that has entered is kept from
entering again. -/
theorem Setting.stage_bars {m m' : Nat} {s : State α k} {j : Fin k}
    (hm : t.stage m = .pending (.enter s j)) (hlt : m < m')
    (hno : ∀ i, m ≤ i → i < m' → t.accepted? (t.stage i) = none) :
    (t.stage m').Bars j := by
  induction m', hlt using Nat.le_induction with
  | base =>
    have hnone := hno m le_rfl (Nat.lt_succ_self m)
    rw [hm] at hnone
    rw [t.stage_succ, hm]
    exact t.advance_bars hnone (.inl rfl)
  | succ m' hle ih =>
    have hbars := ih fun i hi hi' => hno i hi (Nat.lt_succ_of_lt hi')
    have hnone := hno m' (Nat.le_of_succ_le hle) (Nat.lt_succ_self m')
    rw [t.stage_succ]
    cases hv : t.stage m' with
    | converged s' =>
      rw [hv] at hbars
      exact hbars
    | stuck s' => trivial
    | pending p =>
      rw [hv] at hbars hnone
      exact t.advance_bars hnone (.inr hbars)

/-- Between two times that a column enters a point is accepted. -/
theorem Setting.exists_accepted_between {m m' : Nat} {s s' : State α k} {j : Fin k}
    (hm : t.stage m = .pending (.enter s j))
    (hm' : t.stage m' = .pending (.enter s' j)) (hlt : m < m') :
    ∃ i, m ≤ i ∧ i < m' ∧ (t.accepted? (t.stage i)).isSome = true := by
  by_contra hnot
  push Not at hnot
  have hbars := t.stage_bars hm hlt fun i hi hi' =>
    Option.not_isSome_iff_eq_none.mp (hnot i hi hi')
  rw [hm'] at hbars
  exact absurd (hbars.symm.trans (t.not_blocked_of_stage hm')) (by simp)

/-- The next iteration refuses the column that enters: not all of its trial is
positive, and the column's own coefficient is at most zero. -/
def Setting.Refuses (v : Verdict α k) : Prop :=
  ∃ s j z, v = .pending (.enter s j) ∧ t.trial (s.enter j) = some z ∧
    (∃ i, (s.enter j).passive.get i = true ∧ ¬ 0 < z.get i) ∧ z.get j ≤ 0

theorem Setting.Refuses.not_accepted {t : Setting α n k}
    {v : Verdict α k} (h : t.Refuses v) :
    t.accepted? v = none := by
  obtain ⟨s, j, z, rfl, hz, hnot, -⟩ := h
  refine t.accepted_of_not_pos fun z' hz' => ?_
  cases hz.symm.trans hz'
  exact hnot

/-- At most `k` columns are refused in a row, since they are different. -/
theorem Setting.refusals_le {m r : Nat}
    (h : ∀ i < r, t.Refuses (t.stage (m + i))) : r ≤ k := by
  have henters : ∀ i : Fin r, ∃ s j,
      t.stage (m + i) = .pending (.enter s j) := fun i => by
    obtain ⟨s, j, z, hv, -⟩ := h i i.isLt
    exact ⟨s, j, hv⟩
  choose state column hstage using henters
  -- of two columns in the row one enters later, and nothing is accepted in
  -- between
  have hne : ∀ i i' : Fin r, i < i' → column i ≠ column i' := by
    intro i i' hlt heq
    have hlater := hstage i'
    rw [← heq] at hlater
    obtain ⟨a, ha, ha', hsome⟩ := t.exists_accepted_between (hstage i) hlater (by omega)
    have hrefuses := h (a - m) (by omega)
    rw [show m + (a - m) = a by omega] at hrefuses
    rw [hrefuses.not_accepted] at hsome
    cases hsome
  have hinjective : Function.Injective column := by
    intro i i' heq
    rcases lt_trichotomy i i' with hlt | rfl | hlt
    · exact absurd heq (hne i i' hlt)
    · rfl
    · exact absurd heq.symm (hne i' i hlt)
  simpa using Fintype.card_le_of_injective column hinjective

/-! ## Trials -/

/-- The answers to the trials of a run that may spend `budget` iterations, the
first one first. -/
def Setting.trials (t : Setting α n k) (budget : Nat) (v : Verdict α k) :
    List (Option (Vector α k)) :=
  match v, budget with
  | .converged _, _ => []
  | .stuck _, _ => []
  | .pending _, 0 => []
  | .pending p, budget + 1 => t.trial p.tried :: t.trials budget (t.advance p)

/-- `iterations` are the `trials`. -/
theorem Setting.run_iterations (budget spent : Nat) (v : Verdict α k) :
    (t.run budget spent v).iterations = spent + (t.trials budget v).length := by
  induction budget generalizing spent v with
  | zero => cases v <;> rfl
  | succ budget ih =>
    cases v with
    | converged s => rfl
    | stuck s => rfl
    | pending p =>
      show (t.run budget (spent + 1) (t.advance p)).iterations = _
      rw [ih, trials, List.length_cons]
      omega

theorem Setting.length_trials_le (budget : Nat) (v : Verdict α k) :
    (t.trials budget v).length ≤ budget := by
  induction budget generalizing v with
  | zero => cases v <;> exact le_rfl
  | succ budget ih =>
    cases v with
    | converged s => exact Nat.zero_le _
    | stuck s => exact Nat.zero_le _
    | pending p => exact Nat.succ_le_succ (ih (t.advance p))

theorem Setting.trial_of_stuck {p : Pending α k} {s : State α k}
    (h : t.advance p = .stuck s) :
    t.trial p.tried = none := by
  cases t.advance_spec p with
  | stuck hnone _ => exact hnone
  | accept _ _ _ hv => exact absurd (hv.symm.trans h) (t.choose_ne_stuck _ s)
  | refuse _ _ _ _ hv => exact absurd (hv.symm.trans h) (t.choose_ne_stuck _ s)
  | retreat _ _ _ _ hv => cases hv.symm.trans h

/-- A run that does not converge has spent its budget, or its last trial had no
answer. -/
theorem Setting.trials_of_ending (budget spent : Nat) (v : Verdict α k)
    (hstuck : ∀ s, v ≠ .stuck s) (hending : (t.run budget spent v).ending ≠ .converged) :
    (t.trials budget v).length = budget ∨ (t.trials budget v).getLast? = some none := by
  induction budget generalizing spent v with
  | zero =>
    left
    cases v <;> rfl
  | succ budget ih =>
    cases v with
    | converged s => exact absurd rfl hending
    | stuck s => exact absurd rfl (hstuck s)
    | pending p =>
      have hrun : t.run (budget + 1) spent (.pending p) =
          t.run budget (spent + 1) (t.advance p) := rfl
      rw [hrun] at hending
      rw [trials]
      cases hnext : t.advance p with
      | stuck s =>
        -- the run is over, and this was its last trial
        right
        rw [t.trial_of_stuck hnext]
        cases budget <;> rfl
      | converged s =>
        rw [hnext] at hending
        cases budget <;> exact absurd rfl hending
      | pending q =>
        rw [hnext] at hending
        rcases ih (spent + 1) (.pending q) (fun s => by simp) hending with hlength | hlast
        · exact .inl (congrArg Nat.succ hlength)
        · right
          rw [List.getLast?_cons, hlast]
          rfl

/-! ## The solver -/

variable [NatCast α]

/-- **Progress in any arithmetic**, whatever the trials answer, if they answer
at all, as long as `0 ≤ 0`:
- every retreat is stopped by a passive column, which it pins, and it frees
  none;
- a column that enters leads to at most as many retreats as there are passive
  columns, and then to something else, also without a cap;
- between two times that a column enters a point is accepted, so that at most
  `k` columns are refused in a row;
- the `iterations` that the solver reports are the trials that it has made, and
  these are no more than its cap; if it has not converged, then the cap is spent
  or the last trial had no answer. -/
theorem progress_in_any_arithmetic (h0 : (0 : α) ≤ 0) (inner : PassiveSolve α)
    (cap : Nat) (d : Design α n k) :
    (∀ m s j z, (Setting.ofDesign inner d).stage m = .pending (.retreat s j z) →
      (s.retreat z).free.Sublist s.free ∧
        ∃ i ∈ s.free, (stop s.point z s.free).2 = some i ∧ i ∉ (s.retreat z).free) ∧
    (∀ m s j, (Setting.ofDesign inner d).stage m = .pending (.enter s j) →
      ∃ r ≤ (s.enter j).free.length,
        (∀ i < r, ((Setting.ofDesign inner d).stage (m + 1 + i)).Retreating) ∧
          ¬ ((Setting.ofDesign inner d).stage (m + 1 + r)).Retreating) ∧
    (∀ m m' s s' j, m < m' → (Setting.ofDesign inner d).stage m = .pending (.enter s j) →
      (Setting.ofDesign inner d).stage m' = .pending (.enter s' j) →
      ∃ i, m ≤ i ∧ i < m' ∧
        ((Setting.ofDesign inner d).accepted?
          ((Setting.ofDesign inner d).stage i)).isSome = true) ∧
    (∀ m r, (∀ i < r, (Setting.ofDesign inner d).Refuses
      ((Setting.ofDesign inner d).stage (m + i))) → r ≤ k) ∧
    ((activeSet inner cap).solve d).iterations =
      ((Setting.ofDesign inner d).trials cap
        ((Setting.ofDesign inner d).choose (.start k))).length ∧
    ((activeSet inner cap).solve d).iterations ≤ cap ∧
    (((activeSet inner cap).solve d).converged = false →
      ((activeSet inner cap).solve d).iterations = cap ∨
        ((Setting.ofDesign inner d).trials cap
            ((Setting.ofDesign inner d).choose (.start k))).getLast? =
          some none) := by
  have hiterations : ((activeSet inner cap).solve d).iterations =
      ((Setting.ofDesign inner d).trials cap
        ((Setting.ofDesign inner d).choose (.start k))).length := by
    show ((Setting.ofDesign inner d).run cap 0 _).iterations = _
    rw [Setting.run_iterations, Nat.zero_add]
  refine ⟨fun m s j z hv => ?_, fun m s j hv => ?_, fun m m' s s' j hlt hm hm' => ?_,
    fun m r h => ?_, hiterations, ?_, fun hconverged => ?_⟩
  · exact ⟨s.free_retreat_sublist h0 z,
      State.exists_released h0 z (Setting.free_ne_nil_of_stage _ hv)⟩
  -- the first retreat begins with the passive columns of the trial
  · refine Setting.exists_retreats_end _ h0 _ (m + 1) fun s' j' z' hv' => ?_
    rw [Setting.stage_succ, hv] at hv'
    rw [(Setting.tried_of_advance _ (p := .enter s j) hv').1]
    exact le_rfl
  · exact Setting.exists_accepted_between _ hm hm' hlt
  · exact Setting.refusals_le _ h
  · rw [hiterations]
    exact Setting.length_trials_le _ cap _
  · rw [hiterations]
    refine Setting.trials_of_ending _ cap 0 _ (Setting.choose_ne_stuck _ _)
      fun hending => ?_
    have htrue : ((activeSet inner cap).solve d).converged = true :=
      beq_iff_eq.mpr hending
    rw [htrue] at hconverged
    cases hconverged

end Steps

/-- Two orthogonal columns of which the first is the steeper one. -/
def leaningDesign : Design Float 2 2 := ⟨#v[#v[3.0, 0.0], #v[0.0, 3.5]], #v[2.5, 0.5]⟩

/-- With `erraticTrials` the first column is refused and enters again once the
other one is accepted. The trial with both of them is undefined; it takes two
retreats to get rid of them, and nothing is left of either. -/
theorem progress_in_any_arithmetic_erratic :
    (0 : Float) ≤ 0 ∧
    (Setting.ofDesign erraticTrials leaningDesign).Refuses
      ((Setting.ofDesign erraticTrials leaningDesign).stage 0) ∧
    (∃ s s' : State Float 2,
      (Setting.ofDesign erraticTrials leaningDesign).stage 0 = .pending (.enter s 0) ∧
      (Setting.ofDesign erraticTrials leaningDesign).stage 2 = .pending (.enter s' 0) ∧
      (s'.enter 0).free.length = 2) ∧
    (∃ i, 0 ≤ i ∧ i < 2 ∧ ((Setting.ofDesign erraticTrials leaningDesign).accepted?
      ((Setting.ofDesign erraticTrials leaningDesign).stage i)).isSome = true) ∧
    (∃ r ≤ 2, (∀ i < r,
        ((Setting.ofDesign erraticTrials leaningDesign).stage (3 + i)).Retreating) ∧
      ¬ ((Setting.ofDesign erraticTrials leaningDesign).stage (3 + r)).Retreating) ∧
    ((activeSet erraticTrials 4).solve leaningDesign).converged = false ∧
    ((activeSet erraticTrials 4).solve leaningDesign).iterations = 4 := by
  have h0 : (0 : Float) ≤ 0 := by decide
  have hfirst : (Setting.ofDesign erraticTrials leaningDesign).stage 0 =
      .pending (.enter ⟨#v[0.0, 0.0], #v[false, false], #v[false, false]⟩ 0) := by
    decide +kernel
  have hagain : (Setting.ofDesign erraticTrials leaningDesign).stage 2 =
      .pending (.enter ⟨#v[0.0, 1.0], #v[false, true], #v[false, false]⟩ 0) := by
    decide +kernel
  have hfalse : ((activeSet erraticTrials 4).solve leaningDesign).converged =
      false := by decide +kernel
  obtain ⟨-, hretreats, haccepted, -, -, -, hcap⟩ :=
    progress_in_any_arithmetic h0 erraticTrials 4 leaningDesign
  refine ⟨h0, ⟨_, 0, #v[-1.0, 1.0], hfirst, ?_, ⟨0, ?_⟩, ?_⟩,
    ⟨_, _, hfirst, hagain, by decide +kernel⟩,
    haccepted 0 2 _ _ 0 (by decide) hfirst hagain, hretreats 2 _ 0 hagain, hfalse, ?_⟩
  · decide +kernel
  · decide +kernel
  · decide +kernel
  · refine (hcap hfalse).resolve_right ?_
    decide +kernel

end ReachMixture.LeastSquares.ActiveSet
