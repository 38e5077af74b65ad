import ReachMixture.Proofs.LeastSquares.Descent
import ReachMixture.Proofs.LeastSquares.Elimination

/-!
# Independence of passive columns

In exact arithmetic the passive columns of an active-set run are linearly
independent, however many columns of the problem are equal or collinear. A
column enters only if its gradient is positive, and what is left of the target
is orthogonal to the passive columns, so the column that enters is not a
combination of them. It follows that trials through the normal equations always
succeed, and that no more columns are passive than there are observations.

- `State.Independent`: the passive columns of a state are linearly independent.
- `State.Settled.independent_enter`: a column that is worth entering keeps them
  so.
- `State.Independent.positiveDefinite`: the normal equations of the passive
  columns are positive definite.
- `gramSolve_trial`: trials of independent columns need no fallback.
  `gramSolve_exact` says that they solve their normal equations.
- `Setting.stage_sound`: what this means for whole runs, and
  `countP_coefficients_le` for their answers.
-/

namespace ReachMixture.LeastSquares

variable {α : Type} {n k : Nat}

/-- Column `j` as a vector `Fin n → α`. -/
def Design.column (d : Design α n k) (j : Fin k) : Fin n → α :=
  fun row => (d.columns.get j).get row

/-- The answer of `solvePivots` to normal equations, if it is finite. -/
def Normal.direct? [Zero α] [Add α] [Sub α] [Mul α] [Div α] [LT α] [DecidableLT α]
    [Scalar α] (e : Normal α k) :
    Option (Vector α k) :=
  (solvePivots e.gram e.correlation).filter fun z => z.all Scalar.isFinite

/-- The trial of `gramSolve` is `direct?` on the selected normal equations, or
else the fallback. -/
theorem gramSolve_trial [Zero α] [Add α] [Sub α] [Mul α] [Div α] [LT α] [DecidableLT α]
    [Scalar α] (fallback : {n k : Nat} → Design α n k → Option (Vector α k))
    (d : Design α n k) (e : Normal α k) (idx : List (Fin k)) :
    (gramSolve fallback).trial d e idx =
      ((e.select idx).direct? <|> fallback (d.select idx)).map (scatter idx) := rfl

/-- In exact arithmetic every answer of `solvePivots` is finite, so `direct?`
keeps it. -/
theorem Normal.direct_eq [Field α] [LinearOrder α] [Scalar α]
    [ExactScalar α] (e : Normal α k) :
    e.direct? = solvePivots e.gram e.correlation := by
  rw [Normal.direct?]
  cases solvePivots e.gram e.correlation with
  | none => rfl
  | some z => simp [ExactScalar.isFinite_eq_true]

theorem scatter_get [Zero α] {idx : List (Fin k)} (h : idx.Nodup)
    (z : Vector α idx.length) (p : Fin idx.length) :
    (scatter idx z).get (idx.get p) = z.get p := by
  have hindex : idx.idxOf? (idx.get p) = some p.val := by
    refine List.idxOf?_eq_some_iff.mpr ⟨p.isLt, rfl, fun j hj heq => ?_⟩
    have hjp : (⟨j, hj.trans p.isLt⟩ : Fin idx.length) = p := h.injective_get heq
    exact hj.ne (congrArg Fin.val hjp)
  rw [scatter, Vector.get_ofFn, hindex]
  simp [Vector.get_eq_getElem]

namespace Design

variable [Field α] (d : Design α n k)

theorem gram_select_get (idx : List (Fin k)) (p q : Fin idx.length) :
    ((d.normal.select idx).gram.get p).get q = ∑ row,
      d.column (idx.get p) row * d.column (idx.get q) row := by
  simp only [Normal.select, Vector.get_ofFn, Design.normal, Vector.get_map, Vec.dot_eq]
  rfl

theorem isSymmetric_gram (idx : List (Fin k)) :
    IsSymmetric (d.normal.select idx).gram := by
  intro p q
  rw [gram_select_get, gram_select_get]
  exact Finset.sum_congr rfl fun row _ => mul_comm _ _

/-- `yᵀ (AᵀA) y = ‖A y‖²`, for the selected columns. -/
theorem form_gram (idx : List (Fin k)) (y : Fin idx.length → α) :
    form (d.normal.select idx).gram y = ∑ row,
      (∑ p, y p * d.column (idx.get p) row) ^ 2 := by
  calc form (d.normal.select idx).gram y
      = ∑ p, ∑ q, ∑ row, y p * d.column (idx.get p) row *
        (y q * d.column (idx.get q) row) := by
        refine Finset.sum_congr rfl fun p _ => Finset.sum_congr rfl fun q _ => ?_
        rw [gram_select_get, Finset.mul_sum, Finset.sum_mul]
        exact Finset.sum_congr rfl fun row _ => by ring
    _ = ∑ p, ∑ row, ∑ q, y p * d.column (idx.get p) row *
      (y q * d.column (idx.get q) row) :=
        Finset.sum_congr rfl fun p _ => Finset.sum_comm
    _ = ∑ row, ∑ p, ∑ q, y p * d.column (idx.get p) row *
      (y q * d.column (idx.get q) row) := Finset.sum_comm
    _ = ∑ row, (∑ p, y p * d.column (idx.get p) row) ^ 2 :=
        Finset.sum_congr rfl fun row _ => by rw [sq, Finset.sum_mul_sum]

variable [LinearOrder α]

/-- The normal equations of independent columns are positive definite: by
`form_gram` their form is a sum of squares, one for each row, and all of these
vanish only where a combination of the columns does. -/
theorem positiveDefinite_gram [IsStrictOrderedRing α] {idx : List (Fin k)}
    (h : LinearIndependent α fun p => d.column (idx.get p)) :
    PositiveDefinite (d.normal.select idx).gram := by
  refine ⟨d.isSymmetric_gram idx, fun y hy => ?_⟩
  rw [d.form_gram]
  refine Finset.sum_pos' (fun row _ => sq_nonneg _) ?_
  -- if no row contributes, then the combination vanishes and its coefficients
  -- with it
  by_contra hnone
  push Not at hnone
  refine hy (funext (Fintype.linearIndependent_iff.mp h y (funext fun row => ?_)))
  have hrow := pow_eq_zero_iff two_ne_zero
    |>.mp (le_antisymm (hnone row (Finset.mem_univ row)) (sq_nonneg _))
  simpa using hrow

variable [Scalar α] [ExactScalar α]

/-- On columns with positive definite normal equations `direct?` succeeds and
solves them. -/
theorem exists_direct (h : ExactElimination α) {idx : List (Fin k)} (hnodup : idx.Nodup)
    (hdefinite : PositiveDefinite (d.normal.select idx).gram) :
    ∃ z, (d.normal.select idx).direct? = some z ∧
      d.normal.SolvedOn idx (scatter idx z) := by
  obtain ⟨hsome, hsolved⟩ := h (d.normal.select idx).gram
    (d.normal.select idx).correlation (d.isSymmetric_gram idx)
  obtain ⟨z, hz⟩ := hsome.mpr hdefinite
  refine ⟨z, (Normal.direct_eq _).trans hz, fun p => ?_⟩
  have hscatter : (Vector.ofFn fun q => (scatter idx z).get (idx.get q)) = z := by
    refine Vector.ext fun q hq => ?_
    rw [Vector.getElem_ofFn, scatter_get hnodup]
    rfl
  rw [hscatter]
  exact hsolved z hz p

end Design

/-- `gramSolve` without a fallback is `Exact`, if elimination is. -/
theorem gramSolve_exact [Field α] [LinearOrder α] [Scalar α]
    [ExactScalar α] (helim : ExactElimination α) (d : Design α n k) :
    (gramSolve fun _ => none).Exact d := by
  intro idx z hidx hz
  rw [gramSolve_trial, Option.map_eq_some_iff] at hz
  obtain ⟨y, hy, rfl⟩ := hz
  have hy : (d.normal.select idx).direct? = some y := by simpa using hy
  have hpivots : solvePivots (d.normal.select idx).gram
      (d.normal.select idx).correlation = some y :=
    (Normal.direct_eq _).symm.trans hy
  -- elimination gets to an end for definite matrices only, and then what it
  -- finds is the solution
  have hdefinite := (helim _ _ (d.isSymmetric_gram idx)).1.mp ⟨y, hpivots⟩
  obtain ⟨y', hy', hsolved⟩ :=
    d.exists_direct helim (hidx.nodup (List.nodup_finRange k)) hdefinite
  cases hy.symm.trans hy'
  exact hsolved

namespace ActiveSet

variable [Field α] {d : Design α n k} {s : State α k}

namespace State

variable (d s) in
/-- The passive columns are linearly independent. -/
def Independent : Prop := LinearIndepOn α d.column {j | s.passive.get j = true}

theorem start_independent : (State.start k : State α k).Independent d := by
  have hnone : {j | (State.start k : State α k).passive.get j = true} = ∅ := by
    ext j
    simp
  rw [Independent, hnone]
  exact linearIndepOn_empty α d.column

/-- Pinning columns keeps the others independent. -/
theorem Independent.mono (h : s.Independent d) {s' : State α k}
    (hsub : ∀ j, s'.passive.get j = true → s.passive.get j = true) : s'.Independent d :=
  LinearIndepOn.mono h hsub

/-- What is orthogonal to some columns is orthogonal to their span. -/
theorem sum_eq_zero_of_mem_span {p : Set (Fin k)} {r : Fin n → α}
    (h : ∀ j ∈ p, ∑ row, d.column j row * r row = 0) {v : Fin n → α}
    (hv : v ∈ Submodule.span α (d.column '' p)) : ∑ row, v row * r row = 0 := by
  induction hv using Submodule.span_induction with
  | mem v hv =>
    obtain ⟨j, hj, rfl⟩ := hv
    exact h j hj
  | zero => simp
  | add u v _ _ hu hv =>
    simp only [Pi.add_apply, add_mul, Finset.sum_add_distrib, hu, hv, add_zero]
  | smul a v _ hv =>
    simp only [Pi.smul_apply, smul_eq_mul, mul_assoc, ← Finset.mul_sum, hv, mul_zero]

omit [Field α] in
theorem free_nodup (s : State α k) : s.free.Nodup := (List.nodup_finRange k).filter _

/-- The passive columns, as listed by `s.free`, are an independent family. -/
theorem Independent.family (h : s.Independent d) :
    LinearIndependent α fun p => d.column (s.free.get p) := by
  let place : Fin s.free.length → {j | s.passive.get j = true} :=
    fun p => ⟨s.free.get p, mem_free.mp (List.get_mem s.free p)⟩
  have hinjective : Function.Injective place := fun p q hpq =>
    s.free_nodup.injective_get (congrArg Subtype.val hpq)
  exact LinearIndependent.comp h place hinjective

/-- At most `n` columns are passive if they are independent. -/
theorem Independent.free_length_le (h : s.Independent d) : s.free.length ≤ n := by
  have hcard := h.family.fintype_card_le_finrank
  rwa [Fintype.card_fin, Module.finrank_fin_fun] at hcard

variable [LinearOrder α]

/-- **Entering keeps independence**: a column with a positive gradient at a
`Settled` point is not a combination of the passive columns, since the gradient
vanishes at these. -/
theorem Settled.independent_enter (h : s.Settled d) (hs : s.Independent d) {j : Fin k}
    (hw : 0 < (d.gradient s.point).get j) : (s.enter j).Independent d := by
  have hset : {i | (s.enter j).passive.get i = true} =
      insert j {i | s.passive.get i = true} := by
    ext i
    simp [enter_passive_get]
  rw [Independent, hset]
  refine LinearIndepOn.insert hs fun hspan => hw.ne' ?_
  rw [d.gradient_get]
  refine sum_eq_zero_of_mem_span (fun i hi => ?_) hspan
  have hzero := h.stationary i hi
  rwa [d.gradient_get] at hzero

/-- At most `s.free.length` coefficients are positive, if those of pinned
columns are zero. -/
theorem countP_pos_le (h : ∀ i, s.passive.get i = false → s.point.get i = 0) :
    s.point.toList.countP (fun v => decide (0 < v)) ≤ s.free.length := by
  have hlist : s.point.toList = (List.finRange k).map s.point.get := by
    refine List.ext_getElem (by simp) fun i hi hi' => ?_
    simp [Vector.get_eq_getElem]
  rw [hlist, List.countP_map, free, ← List.countP_eq_length_filter]
  refine List.countP_mono_left fun i _ hi => ?_
  cases hp : s.passive.get i with
  | true => rfl
  | false => simp [h i hp] at hi

variable [IsStrictOrderedRing α]

theorem Independent.positiveDefinite (h : s.Independent d) :
    PositiveDefinite (d.normal.select s.free).gram :=
  d.positiveDefinite_gram h.family

end State

/-! ## Stages of a run -/

section Stages

variable [LinearOrder α] [IsStrictOrderedRing α] [Scalar α] [ExactScalar α]

omit [IsStrictOrderedRing α] [Scalar α] [ExactScalar α] in
theorem Verdict.Feasible.zero {v : Verdict α k} (h : v.Feasible)
    (hstuck : ∀ s, v ≠ .stuck s) (i : Fin k) (hi : v.state.passive.get i = false) :
    v.state.point.get i = 0 := by
  cases v with
  | converged s => exact State.Aligned.zero h i hi
  | stuck s => exact absurd rfl (hstuck s)
  | pending p =>
    cases p with
    | enter s j => exact h.1.zero i hi
    | retreat s j z => exact State.Feasible.zero h i hi

/-- The columns of a pending trial are independent, if those of the state before
it are. -/
theorem Pending.tried_independent {p : Pending α k} {last : State α k}
    (h : (Verdict.pending p).Descending d last) (hs : p.state.Independent d) :
    p.tried.Independent d := by
  cases p with
  | enter s j =>
    obtain ⟨-, hsettled, -, hw⟩ := h
    exact hsettled.independent_enter hs
      ((d.tolerance_nonneg ExactScalar.epsilon_nonneg).trans_lt hw)
  | retreat s j z => exact hs.mono fun i => State.passive_of_retreat le_rfl

/-- A run whose trials go through the normal equations: it is `Descending`, its
passive columns are independent, and it is not stuck. -/
structure Verdict.Sound (d : Design α n k) (v : Verdict α k) : Prop where
  descending : ∃ last, v.Descending d last
  independent : v.state.Independent d
  not_stuck : ∀ s, v ≠ .stuck s

theorem choose_sound {inner : PassiveSolve α} {s : State α k} (h : s.Settled d)
    (hs : s.Independent d) :
    ((Setting.ofDesign inner d).choose s).Sound d where
  descending := ⟨s, choose_descending h⟩
  independent := by
    rw [Setting.choose_state]
    exact hs
  not_stuck := (Setting.ofDesign inner d).choose_ne_stuck s

variable (fallback : {n k : Nat} → Design α n k → Option (Vector α k))

/-- A trial of a `Sound` run is answered by `direct?`, and it solves the normal
equations. -/
theorem Verdict.Sound.trial (helim : ExactElimination α) {p : Pending α k}
    (h : (Verdict.pending p).Sound d) :
    ∃ z, (d.normal.select p.tried.free).direct? = some z ∧
      (Setting.ofDesign (gramSolve fallback) d).trial p.tried =
        some (scatter p.tried.free z) ∧
      d.normal.SolvedOn p.tried.free (scatter p.tried.free z) := by
  obtain ⟨last, hlast⟩ := h.descending
  have hdefinite := (Pending.tried_independent hlast h.independent).positiveDefinite
  obtain ⟨z, hz, hsolved⟩ := d.exists_direct helim p.tried.free_nodup hdefinite
  refine ⟨z, hz, ?_, hsolved⟩
  show (gramSolve fallback).trial d d.normal p.tried.free = _
  rw [gramSolve_trial, hz]
  rfl

/-- **One iteration keeps a run `Sound`**, whatever the fallback is. -/
theorem Setting.advance_sound (helim : ExactElimination α) {p : Pending α k}
    (h : (Verdict.pending p).Sound d) :
    ((ofDesign (gramSolve fallback) d).advance p).Sound d := by
  obtain ⟨last, hlast⟩ := h.descending
  have htried := Pending.tried_independent hlast h.independent
  obtain ⟨z, -, htrial, hsolved⟩ := h.trial fallback helim
  -- trials need not be exact for all selections of columns, only for the one
  -- that is tried here
  have hdescent : Descent (ofDesign (gramSolve fallback) d) d last p
      ((ofDesign (gramSolve fallback) d).advance p) := by
    refine descent_of_solved hlast fun z' hz' => ?_
    cases htrial.symm.trans hz'
    exact hsolved
  cases hdescent with
  | stuck hnone _ => exact nomatch htrial.symm.trans hnone
  | accept z _ _ hsettled _ hv =>
    rw [hv]
    exact choose_sound hsettled htried
  | retreat z _ hnot hpromising hv =>
    rw [hv]
    refine ⟨⟨last, hpromising, ?_⟩, htried, fun s => nofun⟩
    obtain ⟨i, hi, hz⟩ := hnot
    exact ⟨i, hi, not_lt.mp hz⟩

theorem Setting.stage_sound (helim : ExactElimination α) (m : Nat) :
    ((ofDesign (gramSolve fallback) d).stage m).Sound d :=
  (ofDesign (gramSolve fallback) d).stage_invariant
    (choose_sound (State.start_settled d) State.start_independent)
      (fun _ => advance_sound fallback helim) m

/-- The answer has at most `n` positive coefficients, one for each row. -/
theorem countP_coefficients_le (helim : ExactElimination α) (cap : Nat)
    (d : Design α n k) :
    ((activeSet (gramSolve fallback) cap).solve d).coefficients.countP
      (fun v => decide (0 < v)) ≤ n := by
  have hsound := Setting.stage_sound (d := d) fallback helim cap
  have hfeasible := (Setting.ofDesign (gramSolve fallback) d).stage_feasible cap
  rw [activeSet_coefficients]
  exact (State.countP_pos_le (hfeasible.zero hsound.not_stuck)).trans
    hsound.independent.free_length_le

end Stages

end ActiveSet

end ReachMixture.LeastSquares
