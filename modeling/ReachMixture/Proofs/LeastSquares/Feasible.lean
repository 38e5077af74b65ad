import ReachMixture.Proofs.Arithmetic
import ReachMixture.Proofs.LeastSquares.Runs

/-!
# Feasibility of active-set runs

An active-set run keeps its point feasible, whatever its trials answer and
however its arithmetic rounds, overflows or fails: only the signs of numbers
have to be lawful.

- `State.Aligned`: passive coefficients are positive and all others are zero. It
  holds whenever a run looks for a column to enter.
- `State.Feasible`: pinned coefficients are zero and none is negative. It is
  what remains of alignment between two looks, where passive coefficients may be
  zero or undefined.
- `Verdict.Feasible`: what a run keeps from stage to stage.
- `feasible_at_every_exit`: alignment at every head of the loop, and feasible
  coefficients at every exit.
-/

namespace ReachMixture.LeastSquares.ActiveSet

variable {α : Type} {n k : Nat}

/-- The run has just looked for a column to enter at the state `s`. -/
inductive Verdict.AtHead (s : State α k) : Verdict α k → Prop where
  | converged : AtHead s (.converged s)
  | enter (j : Fin k) : AtHead s (.pending (.enter s j))

/-- A run that converges, or is `capped` when a column is about to enter, ends
at a head of its loop. -/
theorem Verdict.atHead_of_ending {v : Verdict α k}
    (h : v.ending = .converged ∨ v.ending = .capped) :
    v.AtHead v.state := by
  cases v with
  | converged s => exact .converged
  | stuck s => rcases h with h | h <;> cases h
  | pending p =>
    cases p with
    | enter s j => exact .enter j
    | retreat s j z => rcases h with h | h <;> cases h

section States

variable [Zero α] [LT α]

/-- Passive coefficients are positive and all others are zero. -/
structure State.Aligned (s : State α k) : Prop where
  pos : ∀ i, s.passive.get i = true → 0 < s.point.get i
  zero : ∀ i, s.passive.get i = false → s.point.get i = 0

/-- No coefficient is negative, and those of pinned columns are zero. -/
structure State.Feasible (s : State α k) : Prop where
  nonneg : ∀ i, ¬ s.point.get i < 0
  zero : ∀ i, s.passive.get i = false → s.point.get i = 0

/-- What a run keeps from stage to stage: `Aligned` when a column is looked for,
`Feasible` during retreats. -/
def Verdict.Feasible : Verdict α k → Prop
  | .converged s => s.Aligned
  | .stuck s => ∀ i, ¬ s.point.get i < 0
  | .pending (.enter s j) => s.Aligned ∧ s.passive.get j = false
  | .pending (.retreat s _ _) => s.Feasible

theorem State.start_aligned : (State.start k : State α k).Aligned where
  pos i h := by
    rw [State.start_passive_get] at h
    cases h
  zero i _ := State.start_point_get i

/-- `accept` of a positive trial takes a `Feasible` state to an `Aligned` one. -/
theorem State.Feasible.accept {s : State α k} (h : s.Feasible) {z : Vector α k}
    (hz : ∀ i, s.passive.get i = true → 0 < z.get i) : (s.accept z).Aligned where
  pos i hi := by
    rw [State.accept_passive] at hi
    rw [State.accept_point_get, if_pos hi]
    exact hz i hi
  zero i hi := by
    rw [State.accept_passive] at hi
    rw [State.accept_point_get, if_neg (by simp [hi])]
    exact h.zero i hi

/-- Refusing a column that has just entered restores `Aligned`. -/
theorem State.Aligned.refuse {s : State α k} (h : s.Aligned) {j : Fin k}
    (hj : s.passive.get j = false) :
    ((s.enter j).block j).Aligned where
  pos i hi := by
    rw [State.block_passive, State.leave_passive_get, State.enter_passive_get] at hi
    by_cases hij : i = j
    · rw [if_pos hij] at hi
      cases hi
    · rw [if_neg hij, if_neg hij] at hi
      exact h.pos i hi
  zero i hi := by
    rw [State.block_passive, State.leave_passive_get, State.enter_passive_get] at hi
    by_cases hij : i = j
    · exact h.zero i (hij ▸ hj)
    · rw [if_neg hij, if_neg hij] at hi
      exact h.zero i hi

theorem State.Feasible.enter {s : State α k} (h : s.Feasible) (j : Fin k) :
    (s.enter j).Feasible where
  nonneg := h.nonneg
  zero i hi := by
    rw [State.enter_passive_get] at hi
    by_cases hij : i = j
    · rw [if_pos hij] at hi
      cases hi
    · rw [if_neg hij] at hi
      exact h.zero i hi

theorem Verdict.Feasible.aligned {v : Verdict α k} (h : v.Feasible)
    {s : State α k} (hs : v.AtHead s) :
    s.Aligned := by
  cases hs with
  | converged => exact h
  | enter j => exact h.1

variable [LE α] [LawfulSigns α]

theorem State.Aligned.feasible {s : State α k} (h : s.Aligned) : s.Feasible where
  nonneg i := by
    cases hi : s.passive.get i with
    | true => exact LawfulSigns.not_neg_of_pos (h.pos i hi)
    | false =>
      rw [h.zero i hi]
      exact LawfulSigns.not_zero_neg
  zero := h.zero

/-- No coefficient of a `Feasible` stage is negative. -/
theorem Verdict.Feasible.not_neg {v : Verdict α k} (h : v.Feasible) (i : Fin k) :
    ¬ v.state.point.get i < 0 := by
  cases v with
  | converged s => exact (State.Aligned.feasible h).nonneg i
  | stuck s => exact h i
  | pending p =>
    cases p with
    | enter s j => exact h.1.feasible.nonneg i
    | retreat s j z => exact State.Feasible.nonneg h i

end States

section Steps

variable [Zero α] [One α] [Add α] [Sub α] [Mul α] [Div α] [LT α] [LE α]
  [DecidableLT α] [DecidableLE α]
variable [Scalar α] [LawfulSigns α]

/-- `retreat` keeps `Feasible`: what stays passive is not even nonpositive, and
the rest is zero. -/
theorem State.Feasible.retreat {s : State α k} (h : s.Feasible) (z : Vector α k) :
    (s.retreat z).Feasible where
  nonneg i := by
    cases s.retreated LawfulSigns.zero_le_zero z i with
    | pinned _ hpoint _ =>
      rw [hpoint]
      exact h.nonneg i
    | released _ _ hpoint _ =>
      rw [hpoint]
      exact LawfulSigns.not_zero_neg
    | kept _ _ hmoved hpoint _ =>
      rw [hpoint]
      exact LawfulSigns.not_neg_of_not_le hmoved
  zero i hi := by
    cases s.retreated LawfulSigns.zero_le_zero z i with
    | pinned hp hpoint _ =>
      rw [hpoint]
      exact h.zero i hp
    | released _ _ hpoint _ => exact hpoint
    | kept _ _ _ _ hpassive => exact absurd (hi.symm.trans hpassive) (by simp)

omit [LE α] [DecidableLE α] [One α] [Div α] [Scalar α] [LawfulSigns α] in
theorem Setting.choose_feasible (t : Setting α n k) {s : State α k} (h : s.Aligned) :
    (t.choose s).Feasible := by
  cases t.choice s with
  | converged _ hv =>
    rw [hv]
    exact h
  | enter j hj hv =>
    rw [hv]
    exact ⟨h, (State.of_entering hj).1⟩

/-- The state at which a pending trial is made is `Feasible`. -/
theorem Pending.tried_feasible {p : Pending α k} (h : (Verdict.pending p).Feasible) :
    p.tried.Feasible := by
  cases p with
  | enter s j => exact h.1.feasible.enter j
  | retreat s j z => exact h.retreat z

/-- **One iteration keeps feasibility**, whatever the trial answers. -/
theorem Setting.advance_feasible (t : Setting α n k) {p : Pending α k}
    (h : (Verdict.pending p).Feasible) : (t.advance p).Feasible := by
  have htried := Pending.tried_feasible h
  cases t.advance_spec p with
  | stuck _ hv =>
    rw [hv]
    exact htried.nonneg
  | accept z _ hpos hv =>
    rw [hv]
    exact t.choose_feasible (htried.accept hpos)
  | refuse z _ hfirst _ hv =>
    rw [hv]
    -- only the first trial after a column entered can refuse it
    cases p with
    | enter s j => exact t.choose_feasible (h.1.refuse h.2)
    | retreat s j z => cases hfirst
  | retreat z _ _ _ hv =>
    rw [hv]
    exact htried

theorem Setting.stage_feasible (t : Setting α n k) (m : Nat) : (t.stage m).Feasible :=
  t.stage_invariant (t.choose_feasible State.start_aligned)
    (fun _ => t.advance_feasible) m

/-! ## Every exit -/

variable [NatCast α]

/-- **Feasibility at every exit**, whatever the trials answer and whatever the
arithmetic does beyond `LawfulSigns`. Whenever the run looks for a column to
enter, passive coefficients are positive and all others are zero. The solver's
answer, however the run ended, has one coefficient per column, none of them
negative. If the run converged, or was `capped` when a column was about to
enter, each of them is zero or positive. -/
theorem feasible_at_every_exit (inner : PassiveSolve α) (cap : Nat) (d : Design α n k) :
    (∀ m s, ((Setting.ofDesign inner d).stage m).AtHead s →
      ∀ i, (s.passive.get i = true → 0 < s.point.get i) ∧
        (s.passive.get i = false → s.point.get i = 0)) ∧
    ((activeSet inner cap).solve d).coefficients.length = k ∧
    (∀ v ∈ ((activeSet inner cap).solve d).coefficients, ¬ v < 0) ∧
    ((solve inner cap d).ending = .converged ∨ (solve inner cap d).ending = .capped →
      ∀ v ∈ ((activeSet inner cap).solve d).coefficients, v = 0 ∨ 0 < v) := by
  have hfeasible := (Setting.ofDesign inner d).stage_feasible cap
  -- the coefficients are the point of the last stage
  have hentry : ∀ v ∈ ((activeSet inner cap).solve d).coefficients,
      ∃ i, v = ((Setting.ofDesign inner d).stage cap).state.point.get i := by
    intro v hv
    rw [activeSet_coefficients] at hv
    obtain ⟨i, hi, rfl⟩ := List.getElem_of_mem hv
    exact ⟨⟨i, by simpa using hi⟩, by simp [Vector.get_eq_getElem]⟩
  refine ⟨?_, ?_, ?_, ?_⟩
  · intro m s hs i
    have haligned := ((Setting.ofDesign inner d).stage_feasible m).aligned hs
    exact ⟨haligned.pos i, haligned.zero i⟩
  · rw [activeSet_coefficients, Vector.length_toList]
  · intro v hv
    obtain ⟨i, rfl⟩ := hentry v hv
    exact hfeasible.not_neg i
  · intro hending v hv
    obtain ⟨i, rfl⟩ := hentry v hv
    rw [solve_ending] at hending
    have haligned := hfeasible.aligned (Verdict.atHead_of_ending hending)
    cases hi : ((Setting.ofDesign inner d).stage cap).state.passive.get i with
    | true => exact .inr (haligned.pos i hi)
    | false => exact .inl (haligned.zero i hi)

end Steps

/-- Trials without sense: a column alone is answered well or badly, both
together get an undefined number. -/
def erraticTrials : PassiveSolve Float where
  trial {_ k} _ _ idx := some <| Vector.ofFn fun i : Fin k =>
    if idx.length = 1 then (if i.val = 0 then -1.0 else 1.0)
    else if i.val = 0 then 0.0 / 0.0 else -1.0

/-- Two orthogonal columns of length one. -/
def crossDesign : Design Float 2 2 := ⟨#v[#v[1.0, 0.0], #v[0.0, 1.0]], #v[1.0, 2.0]⟩

/-- With one iteration the run is `capped` when a column is about to enter. With
three it ends in the middle of a retreat, with an undefined coefficient, and
still no coefficient is negative. -/
theorem feasible_at_every_exit_erratic :
    (solve erraticTrials 1 crossDesign).ending = .capped ∧
    (∀ v ∈ ((activeSet erraticTrials 1).solve crossDesign).coefficients, v = 0 ∨ 0 < v) ∧
    (solve erraticTrials 3 crossDesign).ending = .cappedMidway ∧
    (∃ v ∈ ((activeSet erraticTrials 3).solve crossDesign).coefficients, ¬ v ≤ v) ∧
    (∀ v ∈ ((activeSet erraticTrials 3).solve crossDesign).coefficients, ¬ v < 0) := by
  have hcapped : (solve erraticTrials 1 crossDesign).ending = .capped := by decide +kernel
  refine ⟨hcapped, (feasible_at_every_exit erraticTrials 1 crossDesign).2.2.2
    (.inr hcapped), ?_, ?_, (feasible_at_every_exit erraticTrials 3 crossDesign).2.2.1⟩
  · decide +kernel
  · decide +kernel

end ReachMixture.LeastSquares.ActiveSet
