import Mathlib
import ReachMixture.LeastSquares.Solver

/-!
# Active-set runs, step by step

What one step of an active-set run can do, whatever the arithmetic, and how
whole runs are made of steps. All facts about runs are derived from the lemmas
of this module; none of them opens the run itself.

- `State`: entry by entry views of what entering, leaving, blocking, accepting
  and retreating change.
- `Choice`, `Advance`: everything that looking for a column and spending an
  iteration can lead to.
- `Setting.stage`: where a run without a cap stands after some iterations.
  `solve_state` and `solve_ending` say that a capped run ends where the uncapped
  one stands when the cap is spent.
- `Setting.history`: the states that a run has accepted after some iterations.
-/

namespace ReachMixture.LeastSquares.ActiveSet

variable {α : Type} {n k : Nat}

/-! ## Views of the state -/

namespace State

variable (s : State α k) (i j : Fin k) (z : Vector α k)

theorem mem_free {s : State α k} {i : Fin k} : i ∈ s.free ↔ s.passive.get i = true := by
  simp [free]

@[simp] theorem start_point_get [Zero α] : (start k : State α k).point.get i = 0 := by
  simp [start]

@[simp] theorem start_passive_get [Zero α] :
    (start k : State α k).passive.get i = false := by
  simp [start]

@[simp] theorem start_blocked_get [Zero α] :
    (start k : State α k).blocked.get i = false := by
  simp [start]

@[simp] theorem enter_point : (s.enter j).point = s.point := rfl

@[simp] theorem enter_blocked : (s.enter j).blocked = s.blocked := rfl

theorem enter_passive_get :
    (s.enter j).passive.get i = if i = j then true else s.passive.get i := by
  simp only [enter, Vector.get_eq_getElem, Vector.getElem_set, Fin.ext_iff, eq_comm]

@[simp] theorem leave_point : (s.leave j).point = s.point := rfl

theorem leave_passive_get :
    (s.leave j).passive.get i = if i = j then false else s.passive.get i := by
  simp only [leave, Vector.get_eq_getElem, Vector.getElem_set, Fin.ext_iff, eq_comm]

@[simp] theorem block_point : (s.block j).point = s.point := rfl

@[simp] theorem block_passive : (s.block j).passive = (s.leave j).passive := rfl

theorem block_blocked_get :
    (s.block j).blocked.get i = if i = j then true else s.blocked.get i := by
  simp only [block, leave, Vector.get_eq_getElem, Vector.getElem_set,
    Fin.ext_iff, eq_comm]

@[simp] theorem accept_passive : (s.accept z).passive = s.passive := rfl

@[simp] theorem accept_free : (s.accept z).free = s.free := rfl

theorem accept_point_get :
    (s.accept z).point.get i = if s.passive.get i then z.get i else s.point.get i := by
  simp [accept]

@[simp] theorem accept_blocked_get : (s.accept z).blocked.get i = false := by
  simp [accept]

end State

/-!
## Retreats

The column that stops a retreat is one of the passive ones, and it is pinned. Of
the other passive columns those at zero are pinned and the rest move; pinned
columns stay where they are.
-/

section FirstHit

variable [Zero α] [Sub α] [Div α] [LT α] [LE α] [DecidableLT α] [DecidableLE α] [Scalar α]

/-- `firstHit` among the columns `idx` and one more. -/
theorem firstHit_concat (x z : Vector α k) (idx : List (Fin k)) (j : Fin k) :
    firstHit x z (idx ++ [j]) =
      if z.get j ≤ 0 then
        match firstHit x z idx with
        | none =>
          if Scalar.isFinite (hitting (x.get j) (z.get j)) then
            some (hitting (x.get j) (z.get j), j)
          else none
        | some (least, i) =>
          if hitting (x.get j) (z.get j) < least then
            some (hitting (x.get j) (z.get j), j)
          else some (least, i)
      else firstHit x z idx := by
  have hfold : firstHit x z (idx ++ [j]) =
      [j].foldl _ (firstHit x z idx) := List.foldl_append
  rw [hfold]
  cases firstHit x z idx with
  | none => rfl
  | some found => rfl

/-- `firstHit` is one of the columns `idx`. -/
theorem firstHit_mem (x z : Vector α k) (idx : List (Fin k)) {share : α} {i : Fin k}
    (h : firstHit x z idx = some (share, i)) : i ∈ idx := by
  -- the fold looks at the columns in order, so the induction takes them off at
  -- the end
  induction idx using List.reverseRecOn generalizing share i with
  | nil => simp [firstHit] at h
  | append_singleton idx j ih =>
    rw [firstHit_concat] at h
    by_cases hz : z.get j ≤ 0
    · rw [if_pos hz] at h
      cases hfirst : firstHit x z idx with
      | none =>
        simp only [hfirst] at h
        split at h
        · cases h
          exact List.mem_append_right _ (List.mem_singleton_self j)
        · cases h
      | some found =>
        simp only [hfirst] at h
        split at h
        · cases h
          exact List.mem_append_right _ (List.mem_singleton_self j)
        · exact List.mem_append_left _ (ih (hfirst.trans h))
    · rw [if_neg hz] at h
      exact List.mem_append_left _ (ih h)

end FirstHit

section Retreat

variable [Zero α] [One α] [Sub α] [Div α] [LT α] [LE α] [DecidableLT α]
  [DecidableLE α] [Scalar α]

/-- `stop` names one of the columns `idx`, if there are any. -/
theorem stop_mem (x z : Vector α k) {idx : List (Fin k)} (h : idx ≠ []) :
    ∃ i ∈ idx, (stop x z idx).2 = some i := by
  unfold stop
  cases hfirst : firstHit x z idx with
  | none =>
    obtain ⟨i, rest, rfl⟩ := List.exists_cons_of_ne_nil h
    exact ⟨i, List.mem_cons_self, rfl⟩
  | some found => exact ⟨found.2, firstHit_mem x z idx hfirst, rfl⟩

/-- Only one of the columns `idx` can `stop` the move. -/
theorem mem_of_stop (x z : Vector α k) {idx : List (Fin k)} {i : Fin k}
    (h : (stop x z idx).2 = some i) : i ∈ idx := by
  cases idx with
  | nil => simp [stop, firstHit] at h
  | cons j rest =>
    obtain ⟨i', hmem, hi'⟩ := stop_mem x z (List.cons_ne_nil j rest)
    rw [hi'] at h
    cases h
    exact hmem

variable [Add α] [Mul α]

/-- Where a passive coefficient stands when the share of `stop` has been gone. -/
def State.moved (s : State α k) (z : Vector α k) (i : Fin k) : α :=
  s.point.get i + (stop s.point z s.free).1 * (z.get i - s.point.get i)

/-- What `retreat` does to one column. -/
inductive State.Retreated (s : State α k) (z : Vector α k) (i : Fin k) : Prop where
  /-- The column was pinned and stays so. -/
  | pinned (h : s.passive.get i = false)
      (hpoint : (s.retreat z).point.get i = s.point.get i)
      (hpassive : (s.retreat z).passive.get i = false)
  /-- The column is pinned because it stops the move, or because it is not
  positive after it. -/
  | released (h : s.passive.get i = true)
      (hwhy : (stop s.point z s.free).2 = some i ∨ s.moved z i ≤ 0)
      (hpoint : (s.retreat z).point.get i = 0)
      (hpassive : (s.retreat z).passive.get i = false)
  /-- The column stays passive and its coefficient moves. -/
  | kept (h : s.passive.get i = true) (hstop : (stop s.point z s.free).2 ≠ some i)
      (hmoved : ¬ s.moved z i ≤ 0) (hpoint : (s.retreat z).point.get i = s.moved z i)
      (hpassive : (s.retreat z).passive.get i = true)

theorem State.retreated (h0 : (0 : α) ≤ 0) (s : State α k) (z : Vector α k) (i : Fin k) :
    s.Retreated z i := by
  -- only passive columns move or stop the move
  cases hp : s.passive.get i with
  | false =>
    have hstop : (stop s.point z s.free).2 ≠ some i := by
      intro h
      have hmem := State.mem_free.mp (mem_of_stop s.point z h)
      rw [hp] at hmem
      cases hmem
    refine .pinned hp ?_ ?_
    · simp [State.retreat, hp, hstop]
    · simp [State.retreat, hp]
  | true =>
    by_cases hstop : (stop s.point z s.free).2 = some i
    · refine .released hp (.inl hstop) ?_ ?_
      · simp [State.retreat, hstop]
      · simp [State.retreat, hp, hstop, h0]
    · by_cases hmoved : s.moved z i ≤ 0
      · refine .released hp (.inr hmoved) ?_ ?_
        · rw [State.moved] at hmoved
          simp [State.retreat, hp, hstop, hmoved]
        · rw [State.moved] at hmoved
          simp [State.retreat, hp, hstop, hmoved]
      · refine .kept hp hstop hmoved ?_ ?_
        · rw [State.moved] at hmoved ⊢
          simp [State.retreat, hp, hstop, hmoved]
        · rw [State.moved] at hmoved
          simp [State.retreat, hp, hstop, hmoved]

/-- Columns that are passive after `retreat` were so before. -/
theorem State.passive_of_retreat (h0 : (0 : α) ≤ 0) {s : State α k} {z : Vector α k}
    {i : Fin k} (h : (s.retreat z).passive.get i = true) : s.passive.get i = true := by
  cases s.retreated h0 z i with
  | pinned _ _ hpassive => exact absurd (h.symm.trans hpassive) (by simp)
  | released _ _ _ hpassive => exact absurd (h.symm.trans hpassive) (by simp)
  | kept hp => exact hp

/-- `free` after `retreat` is a sublist of `free` before. -/
theorem State.free_retreat_sublist (h0 : (0 : α) ≤ 0) (s : State α k) (z : Vector α k) :
    (s.retreat z).free.Sublist s.free :=
  List.monotone_filter_right _ fun _ hj => State.passive_of_retreat h0 hj

/-- `retreat` is stopped by one of the passive columns, if there are any, and
pins that column. -/
theorem State.exists_released (h0 : (0 : α) ≤ 0) {s : State α k}
    (z : Vector α k) (h : s.free ≠ []) :
    ∃ i ∈ s.free, (stop s.point z s.free).2 = some i ∧ i ∉ (s.retreat z).free := by
  obtain ⟨i, hi, hstop⟩ := stop_mem s.point z h
  refine ⟨i, hi, hstop, fun hmem => ?_⟩
  rw [State.mem_free] at hmem
  cases s.retreated h0 z i with
  | pinned _ _ hpassive => exact absurd (hmem.symm.trans hpassive) (by simp)
  | released _ _ _ hpassive => exact absurd (hmem.symm.trans hpassive) (by simp)
  | kept _ hne => exact hne hstop

/-- `retreat` pins at least one of the passive columns, if there are any. -/
theorem State.free_retreat_lt (h0 : (0 : α) ≤ 0) {s : State α k}
    (z : Vector α k) (h : s.free ≠ []) :
    (s.retreat z).free.length < s.free.length := by
  obtain ⟨i, hi, -, hgone⟩ := State.exists_released h0 z h
  have hsub := s.free_retreat_sublist h0 z
  refine lt_of_le_of_ne hsub.length_le fun heq => hgone ?_
  rw [hsub.eq_of_length heq]
  exact hi

end Retreat

/-! ## Steps -/

section Entering

variable [LT α] [DecidableLT α]

/-- A column that enters is neither passive nor blocked, and its gradient
exceeds the tolerance. -/
theorem State.of_entering {s : State α k} {w : Vector α k} {tol : α} {j : Fin k}
    (h : s.entering? w tol = some j) :
    s.passive.get j = false ∧ s.blocked.get j = false ∧ tol < w.get j := by
  -- the steepest of the candidates is one of them
  have hfold : ∀ (rest : List (Fin k)) (i : Fin k),
      rest.foldl (fun best j => if w.get j < w.get best then best else j) i ∈
        i :: rest := by
    intro rest
    induction rest with
    | nil => intro i; exact List.mem_singleton_self i
    | cons j rest ih =>
      intro i
      rw [List.foldl_cons]
      split
      · exact List.mem_cons.mpr
          ((List.mem_cons.mp (ih i)).imp_right (List.mem_cons_of_mem j))
      · exact List.mem_cons_of_mem i (ih j)
  obtain ⟨hsteep, htol⟩ := Option.filter_eq_some_iff.mp h
  have hmem : j ∈ s.candidates := by
    cases hc : s.candidates with
    | nil => rw [hc] at hsteep; cases hsteep
    | cons i rest =>
      rw [hc] at hsteep
      cases hsteep
      exact hfold rest i
  have hfree := (List.mem_filter.mp hmem).2
  rw [Bool.and_eq_true, Bool.not_eq_true', Bool.not_eq_true'] at hfree
  exact ⟨hfree.1, hfree.2, by simpa using htol⟩

variable [Zero α] [Add α] [Sub α] [Mul α]

/-- What `Setting.choose` can lead to. -/
inductive Choice (t : Setting α n k) (s : State α k) (v : Verdict α k) : Prop where
  /-- No column is worth entering. -/
  | converged (h : s.entering? (t.normal.gradient s.point) t.tolerance = none)
    (hv : v = .converged s)
  /-- A column is to enter. -/
  | enter (j : Fin k) (h : s.entering? (t.normal.gradient s.point) t.tolerance = some j)
      (hv : v = .pending (.enter s j))

theorem Setting.choice (t : Setting α n k) (s : State α k) : Choice t s (t.choose s) := by
  unfold Setting.choose
  cases h : s.entering? (t.normal.gradient s.point) t.tolerance with
  | none => exact .converged h rfl
  | some j => exact .enter j h rfl

end Entering

section Steps

variable [Zero α] [One α] [Add α] [Sub α] [Mul α] [Div α] [LT α] [LE α]
  [DecidableLT α] [DecidableLE α]
variable [Scalar α]

/-- The state at which a pending trial is made. -/
def Pending.tried : Pending α k → State α k
  | .enter s j => s.enter j
  | .retreat s _ z => s.retreat z

/-- The column that entered last when a pending trial is made. -/
def Pending.column : Pending α k → Fin k
  | .enter _ j => j
  | .retreat _ j _ => j

/-- Whether a pending trial is the first one since a column entered. -/
def Pending.isFirst : Pending α k → Bool
  | .enter _ _ => true
  | .retreat _ _ _ => false

/-- Neither entering nor retreating blocks a column. -/
theorem Pending.tried_blocked (p : Pending α k) : p.tried.blocked = p.state.blocked := by
  cases p <;> rfl

/-- `advance` makes one trial and judges it. -/
theorem Setting.advance_eq_judge (t : Setting α n k) (p : Pending α k) :
    t.advance p = t.judge p.tried p.column p.isFirst (t.trial p.tried) := by
  cases p <;> rfl

/-- Everything that `Setting.advance` can lead to. -/
inductive Advance (t : Setting α n k) (p : Pending α k) (v : Verdict α k) : Prop where
  /-- There is no trial. -/
  | stuck (h : t.trial p.tried = none) (hv : v = .stuck (p.tried.leave p.column))
  /-- The trial is positive and becomes the point. -/
  | accept (z : Vector α k) (h : t.trial p.tried = some z)
      (hpos : ∀ i, p.tried.passive.get i = true → 0 < z.get i)
      (hv : v = t.choose (p.tried.accept z))
  /-- The column that entered is refused. -/
  | refuse (z : Vector α k) (h : t.trial p.tried = some z) (hfirst : p.isFirst = true)
      (hz : z.get p.column ≤ 0) (hv : v = t.choose (p.tried.block p.column))
  /-- The point has to retreat. -/
  | retreat (z : Vector α k) (h : t.trial p.tried = some z)
      (hnot : ∃ i, p.tried.passive.get i = true ∧ ¬ 0 < z.get i)
      (hkeep : p.isFirst = true → ¬ z.get p.column ≤ 0)
      (hv : v = .pending (.retreat p.tried p.column z))

theorem Setting.advance_spec (t : Setting α n k) (p : Pending α k) :
    Advance t p (t.advance p) := by
  rw [t.advance_eq_judge]
  cases h : t.trial p.tried with
  | none => exact .stuck h rfl
  | some z =>
    simp only [Setting.judge]
    by_cases hpos : (p.tried.free.all fun i => 0 < z.get i) = true
    · rw [if_pos hpos]
      refine .accept z h (fun i hi => ?_) rfl
      simpa using List.all_eq_true.mp hpos i (State.mem_free.mpr hi)
    · rw [if_neg hpos]
      by_cases hrefuse : (p.isFirst && decide (z.get p.column ≤ 0)) = true
      · rw [if_pos hrefuse]
        rw [Bool.and_eq_true, decide_eq_true_iff] at hrefuse
        exact .refuse z h hrefuse.1 hrefuse.2 rfl
      · rw [if_neg hrefuse]
        refine .retreat z h ?_ ?_ rfl
        · rw [List.all_eq_true] at hpos
          push Not at hpos
          obtain ⟨i, hi, hz⟩ := hpos
          exact ⟨i, State.mem_free.mp hi, by simpa using hz⟩
        · intro hfirst hz
          exact hrefuse (by rw [hfirst, decide_eq_true hz]; rfl)

/-! ## Stages of a run -/

/-- One iteration more, if the run has not ended. -/
def Setting.next (t : Setting α n k) : Verdict α k → Verdict α k
  | .pending p => t.advance p
  | v => v

/-- Where the run without a cap stands after `m` iterations. -/
def Setting.stage (t : Setting α n k) (m : Nat) : Verdict α k :=
  t.next^[m] (t.choose (.start k))

theorem Setting.stage_succ (t : Setting α n k) (m : Nat) :
    t.stage (m + 1) = t.next (t.stage m) :=
  Function.iterate_succ_apply' ..

/-- **Invariants of runs**: what holds when the run begins and is kept by
`advance` holds at every `stage`. -/
theorem Setting.stage_invariant {P : Verdict α k → Prop} (t : Setting α n k)
    (hstart : P (t.choose (.start k)))
    (hstep : ∀ p, P (.pending p) → P (t.advance p)) (m : Nat) :
    P (t.stage m) := by
  induction m with
  | zero => exact hstart
  | succ m ih =>
    rw [t.stage_succ]
    cases h : t.stage m with
    | converged s =>
      rw [h] at ih
      exact ih
    | stuck s =>
      rw [h] at ih
      exact ih
    | pending p =>
      rw [h] at ih
      exact hstep p ih

/-- A run that has converged stays where it is. -/
theorem Setting.stage_of_converged {t : Setting α n k} {m : Nat} {s : State α k}
    (h : t.stage m = .converged s) {m' : Nat} (hle : m ≤ m') :
    t.stage m' = .converged s := by
  induction m', hle using Nat.le_induction with
  | base => exact h
  | succ m' _ ih => rw [t.stage_succ, ih]; rfl

/-- The state that the next iteration accepts, if it accepts one. -/
def Setting.accepted? (t : Setting α n k) : Verdict α k → Option (State α k)
  | .pending p =>
    ((t.trial p.tried).filter fun z => p.tried.free.all fun i => 0 < z.get i).map
      p.tried.accept
  | _ => none

/-- The states that the run has accepted after `m` iterations, the latest first
and the start last. -/
def Setting.history (t : Setting α n k) : Nat → List (State α k)
  | 0 => [.start k]
  | m + 1 => (t.accepted? (t.stage m)).toList ++ t.history m

theorem Setting.accepted_of_pos (t : Setting α n k) {p : Pending α k} {z : Vector α k}
    (h : t.trial p.tried = some z)
    (hpos : ∀ i, p.tried.passive.get i = true → 0 < z.get i) :
    t.accepted? (.pending p) = some (p.tried.accept z) := by
  have hall : (p.tried.free.all fun i => 0 < z.get i) = true :=
    List.all_eq_true.mpr fun i hi => decide_eq_true (hpos i (State.mem_free.mp hi))
  simp only [accepted?, h, Option.filter_some, hall, if_true, Option.map_some]

theorem Setting.accepted_of_not_pos (t : Setting α n k) {p : Pending α k}
    (h : ∀ z, t.trial p.tried = some z →
      ∃ i, p.tried.passive.get i = true ∧ ¬ 0 < z.get i) :
    t.accepted? (.pending p) = none := by
  rw [accepted?, Option.map_eq_none_iff, Option.filter_eq_none_iff]
  intro z hz hall
  obtain ⟨i, hi, hnot⟩ := h z hz
  exact hnot (of_decide_eq_true (List.all_eq_true.mp hall i (State.mem_free.mpr hi)))

/-- The state that stands at a stage. -/
def Verdict.state : Verdict α k → State α k
  | .converged s => s
  | .stuck s => s
  | .pending p => p.state

/-- How a run ends if its cap is spent at a stage. -/
def Verdict.ending : Verdict α k → Ending
  | .converged _ => .converged
  | .stuck _ => .stuck
  | .pending p => p.ending

/-- `run` with `budget` iterations ends where `next`, iterated as often, stands. -/
theorem Setting.run_eq (t : Setting α n k) (budget spent : Nat) (v : Verdict α k) :
    (t.run budget spent v).state = (t.next^[budget] v).state ∧
      (t.run budget spent v).ending = (t.next^[budget] v).ending := by
  have hstay : ∀ (m : Nat) (v : Verdict α k), t.next v = v → t.next^[m] v = v :=
    fun m v h => Function.iterate_fixed h m
  induction budget generalizing spent v with
  | zero => cases v <;> exact ⟨rfl, rfl⟩
  | succ budget ih =>
    cases v with
    | converged s =>
      rw [hstay (budget + 1) (.converged s) rfl]
      exact ⟨rfl, rfl⟩
    | stuck s =>
      rw [hstay (budget + 1) (.stuck s) rfl]
      exact ⟨rfl, rfl⟩
    | pending p =>
      rw [Function.iterate_succ_apply]
      exact ih (spent + 1) (t.advance p)

omit [One α] [Div α] [LE α] [DecidableLE α] [Scalar α] in
/-- `choose` does not change the state. -/
theorem Setting.choose_state (t : Setting α n k) (s : State α k) :
    (t.choose s).state = s := by
  cases t.choice s with
  | converged _ hv => rw [hv]; rfl
  | enter _ _ hv => rw [hv]; rfl

omit [One α] [Div α] [LE α] [DecidableLE α] [Scalar α] in
theorem Setting.choose_ne_stuck (t : Setting α n k) (s s' : State α k) :
    t.choose s ≠ .stuck s' := by
  intro h
  cases t.choice s with
  | converged _ hv => exact nomatch hv.symm.trans h
  | enter _ _ hv => exact nomatch hv.symm.trans h

variable [NatCast α]

theorem solve_state (inner : PassiveSolve α) (cap : Nat) (d : Design α n k) :
    (solve inner cap d).state = ((Setting.ofDesign inner d).stage cap).state :=
  ((Setting.ofDesign inner d).run_eq cap 0 _).1

theorem solve_ending (inner : PassiveSolve α) (cap : Nat) (d : Design α n k) :
    (solve inner cap d).ending = ((Setting.ofDesign inner d).stage cap).ending :=
  ((Setting.ofDesign inner d).run_eq cap 0 _).2

/-- The coefficients of the answer are those of `stage cap`. -/
theorem activeSet_coefficients (inner : PassiveSolve α) (cap : Nat) (d : Design α n k) :
    ((activeSet inner cap).solve d).coefficients =
      ((Setting.ofDesign inner d).stage cap).state.point.toList := by
  rw [← solve_state]
  rfl

/-- An answer counts as converged iff `stage cap` has converged. -/
theorem activeSet_converged {inner : PassiveSolve α} {cap : Nat} {d : Design α n k} :
    ((activeSet inner cap).solve d).converged = true ↔
      ∃ s, (Setting.ofDesign inner d).stage cap = .converged s := by
  have hending : ((activeSet inner cap).solve d).converged = true ↔
      ((Setting.ofDesign inner d).stage cap).ending = .converged := by
    rw [← solve_ending]
    exact beq_iff_eq
  rw [hending]
  cases (Setting.ofDesign inner d).stage cap with
  | converged s => exact ⟨fun _ => ⟨s, rfl⟩, fun _ => rfl⟩
  | stuck s => exact ⟨(nomatch ·), fun ⟨_, h⟩ => nomatch h⟩
  | pending p =>
    refine ⟨fun h => ?_, fun ⟨_, h⟩ => nomatch h⟩
    cases p <;> cases h

end Steps

end ReachMixture.LeastSquares.ActiveSet
