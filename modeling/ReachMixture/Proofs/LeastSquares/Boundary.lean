import ReachMixture.Proofs.LeastSquares.Feasible

/-!
# Retreats in exact arithmetic

Where a retreat lands when nothing is rounded: on the segment from the point to
the trial, as far along as no coefficient becomes negative, with at least one
coefficient at zero.

- `hitting`: the share of the way at which one coefficient reaches zero, and
  what a smaller share leaves.
- `stop_eq`: the move stops at the least share of all coefficients that reach
  zero.
- `isGreatest_stop`: unless a coefficient has nowhere to go, no larger share
  keeps all coefficients from becoming negative.
- `State.Feasible.retreat_point_get`, `State.Feasible.retreat_segment`: every
  coefficient, also one that is set to zero, lies on the segment.
-/

namespace ReachMixture.LeastSquares.ActiveSet

variable {α : Type} {k : Nat}
variable [Field α] [LinearOrder α] [IsStrictOrderedRing α]

/-! ## One coefficient -/

section Hitting

variable {x z t : α}

theorem hitting_nonneg (hx : 0 ≤ x) (hz : z ≤ 0) : 0 ≤ hitting x z := by
  unfold hitting
  split
  · exact div_nonneg hx (sub_nonneg.mpr (hz.trans hx))
  · exact le_rfl

theorem hitting_pos (hx : 0 < x) (hz : z ≤ 0) : 0 < hitting x z := by
  have hpos : 0 < x - z := sub_pos.mpr (lt_of_le_of_lt hz hx)
  rw [hitting, if_pos hpos]
  exact div_pos hx hpos

theorem hitting_le_one (hz : z ≤ 0) : hitting x z ≤ 1 := by
  unfold hitting
  split
  · rename_i hpos
    rw [div_le_one hpos]
    exact le_sub_self_iff x |>.mpr hz
  · exact zero_le_one

/-- At the share `hitting x z` of the way from `x` to `z` a coefficient is zero. -/
theorem add_hitting_mul (hx : 0 ≤ x) (hz : z ≤ 0) : x + hitting x z * (z - x) = 0 := by
  unfold hitting
  split
  · rename_i hpos
    rw [← neg_sub x z, mul_neg, div_mul_cancel₀ x hpos.ne', add_neg_cancel]
  · rename_i hpos
    -- neither number can differ from zero if they do not differ from each other
    have hxz : x ≤ z := sub_nonpos.mp (not_lt.mp hpos)
    rw [le_antisymm (hxz.trans hz) hx, zero_mul, add_zero]

/-- Up to the share `hitting x z` a coefficient is not negative. -/
theorem add_mul_nonneg (hx : 0 ≤ x) (ht : 0 ≤ t) (ht1 : t ≤ 1)
    (h : z ≤ 0 → t ≤ hitting x z) :
    0 ≤ x + t * (z - x) := by
  by_cases hz : z ≤ 0
  · have hle : hitting x z * (z - x) ≤ t * (z - x) :=
      mul_le_mul_of_nonpos_right (h hz) (sub_nonpos.mpr (hz.trans hx))
    calc 0 = x + hitting x z * (z - x) := (add_hitting_mul hx hz).symm
      _ ≤ x + t * (z - x) := by gcongr
  · have hsplit : x + t * (z - x) = (1 - t) * x + t * z := by ring
    rw [hsplit]
    exact add_nonneg (mul_nonneg (sub_nonneg.mpr ht1) hx)
      (mul_nonneg ht (not_le.mp hz).le)

/-- Beyond `hitting x z` a coefficient is negative, unless `x` and `z` are both
zero. -/
theorem le_hitting (hx : 0 ≤ x) (hz : z ≤ 0) (hapart : x ≠ 0 ∨ z ≠ 0)
    (h : 0 ≤ x + t * (z - x)) :
    t ≤ hitting x z := by
  have hpos : 0 < x - z := by
    refine sub_pos.mpr (lt_of_le_of_ne (hz.trans hx) fun heq => ?_)
    have hzero : x = 0 := le_antisymm (heq ▸ hz) hx
    exact hapart.elim (fun hne => hne hzero) fun hne => hne (heq.trans hzero)
  rw [hitting, if_pos hpos, le_div_iff₀ hpos]
  linarith

theorem clampShare_hitting (hx : 0 ≤ x) (hz : z ≤ 0) :
    clampShare (hitting x z) = hitting x z := by
  rw [clampShare, if_neg (hitting_nonneg hx hz).not_gt, if_neg (hitting_le_one hz).not_gt]

end Hitting

/-! ## All coefficients -/

variable [Scalar α] [ExactScalar α]

omit [IsStrictOrderedRing α] in
/-- `firstHit` is the column with the least `hitting` share among those with
`z ≤ 0`; `none` if there are none. -/
theorem firstHit_least (x z : Vector α k) (idx : List (Fin k)) :
    (firstHit x z idx = none ∧ ∀ j ∈ idx, ¬ z.get j ≤ 0) ∨
      ∃ i ∈ idx, z.get i ≤ 0 ∧ firstHit x z idx = some (hitting (x.get i) (z.get i), i) ∧
        ∀ j ∈ idx, z.get j ≤ 0 →
          hitting (x.get i) (z.get i) ≤ hitting (x.get j) (z.get j) := by
  induction idx using List.reverseRecOn with
  | nil => exact .inl ⟨rfl, fun j hj => absurd hj List.not_mem_nil⟩
  | append_singleton idx j ih =>
    rw [firstHit_concat]
    by_cases hj : z.get j ≤ 0
    · rw [if_pos hj]
      right
      rcases ih with ⟨hnone, hpos⟩ | ⟨i, hi, hzi, hsome, hleast⟩
      · -- nothing was hit so far
        refine ⟨j, by simp, hj, ?_, ?_⟩
        · simp [hnone, ExactScalar.isFinite_eq_true]
        · intro j' hj' hz'
          rcases List.mem_append.mp hj' with hj' | hj'
          · exact absurd hz' (hpos j' hj')
          · rw [List.mem_singleton.mp hj']
      · simp only [hsome]
        by_cases hlt : hitting (x.get j) (z.get j) < hitting (x.get i) (z.get i)
        · refine ⟨j, by simp, hj, by rw [if_pos hlt], ?_⟩
          intro j' hj' hz'
          rcases List.mem_append.mp hj' with hj' | hj'
          · exact hlt.le.trans (hleast j' hj' hz')
          · rw [List.mem_singleton.mp hj']
        · refine ⟨i, List.mem_append_left _ hi, hzi, by rw [if_neg hlt], ?_⟩
          intro j' hj' hz'
          rcases List.mem_append.mp hj' with hj' | hj'
          · exact hleast j' hj' hz'
          · rw [List.mem_singleton.mp hj']
            exact not_lt.mp hlt
    · rw [if_neg hj]
      rcases ih with ⟨hnone, hpos⟩ | ⟨i, hi, hzi, hsome, hleast⟩
      · refine .inl ⟨hnone, fun j' hj' => ?_⟩
        rcases List.mem_append.mp hj' with hj' | hj'
        · exact hpos j' hj'
        · rwa [List.mem_singleton.mp hj']
      · refine .inr ⟨i, List.mem_append_left _ hi, hzi, hsome, fun j' hj' hz' => ?_⟩
        rcases List.mem_append.mp hj' with hj' | hj'
        · exact hleast j' hj' hz'
        · exact absurd (List.mem_singleton.mp hj' ▸ hz') hj

/-- If some trial coefficient is nonpositive, `stop` is the least `hitting`
share, which is never clamped. -/
theorem stop_eq {x z : Vector α k} {idx : List (Fin k)} (hx : ∀ i ∈ idx, 0 ≤ x.get i)
    (hz : ∃ i ∈ idx, z.get i ≤ 0) :
    ∃ i ∈ idx, z.get i ≤ 0 ∧ firstHit x z idx = some (hitting (x.get i) (z.get i), i) ∧
      stop x z idx = (hitting (x.get i) (z.get i), some i) ∧
      ∀ j ∈ idx, z.get j ≤ 0 →
        hitting (x.get i) (z.get i) ≤ hitting (x.get j) (z.get j) := by
  rcases firstHit_least x z idx with ⟨-, hpos⟩ | ⟨i, hi, hzi, hsome, hleast⟩
  · obtain ⟨i, hi, hzi⟩ := hz
    exact absurd hzi (hpos i hi)
  · refine ⟨i, hi, hzi, hsome, ?_, hleast⟩
    simp only [stop, hsome, clampShare_hitting (hx i hi) hzi]

/-- At the share of `stop` no coefficient is negative. -/
theorem stop_move_nonneg {x z : Vector α k} {idx : List (Fin k)}
    (hx : ∀ i ∈ idx, 0 ≤ x.get i) (hz : ∃ i ∈ idx, z.get i ≤ 0)
    {j : Fin k} (hj : j ∈ idx) :
    0 ≤ x.get j + (stop x z idx).1 * (z.get j - x.get j) := by
  obtain ⟨i, hi, hzi, -, hstop, hleast⟩ := stop_eq hx hz
  rw [hstop]
  exact add_mul_nonneg (hx j hj) (hitting_nonneg (hx i hi) hzi)
    (hitting_le_one hzi) (hleast j hj)

/-- **How far a move goes.** Unless one of the coefficients is zero all the way,
the share of `stop` is the largest one in `[0, 1]` that keeps all of them from
becoming negative. -/
theorem isGreatest_stop {x z : Vector α k} {idx : List (Fin k)}
    (hx : ∀ i ∈ idx, 0 ≤ x.get i) (hz : ∃ i ∈ idx, z.get i ≤ 0)
    (hapart : ∀ i ∈ idx, x.get i ≠ 0 ∨ z.get i ≠ 0) :
    IsGreatest {t | 0 ≤ t ∧ t ≤ 1 ∧ ∀ i ∈ idx, 0 ≤ x.get i + t * (z.get i - x.get i)}
      (stop x z idx).1 := by
  obtain ⟨i, hi, hzi, -, hstop, -⟩ := stop_eq hx hz
  have hmove := fun j (hj : j ∈ idx) => stop_move_nonneg hx hz hj
  rw [hstop] at hmove ⊢
  refine ⟨⟨hitting_nonneg (hx i hi) hzi, hitting_le_one hzi, hmove⟩, ?_⟩
  rintro t ⟨-, -, ht⟩
  exact le_hitting (hx i hi) hzi (hapart i hi) (ht i hi)

namespace State.Feasible

variable {s : State α k} {z : Vector α k}

omit [IsStrictOrderedRing α] [Scalar α] [ExactScalar α] in
theorem exists_free (hz : ∃ i, s.passive.get i = true ∧ z.get i ≤ 0) :
    ∃ i ∈ s.free, z.get i ≤ 0 :=
  hz.imp fun _ hi => ⟨State.mem_free.mpr hi.1, hi.2⟩

/-- All coefficients lie the share of `stop` along the way from the point to the
trial, so that setting one to zero never changes its value. -/
theorem retreat_point_get (h : s.Feasible)
    (hz : ∃ i, s.passive.get i = true ∧ z.get i ≤ 0) (j : Fin k) :
    (s.retreat z).point.get j = s.point.get j +
      (stop s.point z s.free).1 * ((s.accept z).point.get j - s.point.get j) := by
  have hnonneg : ∀ i, 0 ≤ s.point.get i := fun i => not_lt.mp (h.nonneg i)
  rw [State.accept_point_get]
  cases s.retreated le_rfl z j with
  | pinned hp hpoint _ => rw [hpoint, if_neg (by simp [hp]), sub_self, mul_zero, add_zero]
  | kept hp _ _ hpoint _ =>
    rw [hpoint, if_pos hp]
    rfl
  | released hp hwhy hpoint _ =>
    rw [hpoint, if_pos hp]
    rcases hwhy with hstopped | hle
    · -- the column that stops the move is at zero because the share is its own
      obtain ⟨i, -, hzi, -, hstop, -⟩ := stop_eq (fun i _ => hnonneg i) (exists_free hz)
      rw [hstop] at hstopped ⊢
      cases hstopped
      exact (add_hitting_mul (hnonneg _) hzi).symm
    · -- any other column is not below zero either
      exact le_antisymm (stop_move_nonneg (fun i _ => hnonneg i) (exists_free hz)
        (State.mem_free.mpr hp)) hle

/-- **Where a retreat lands.** It goes the share `hitting` of some passive
column `i`, the same for all coefficients. That coefficient is zero there, and
those that stay passive are positive. -/
theorem retreat_segment (h : s.Feasible)
    (hz : ∃ i, s.passive.get i = true ∧ z.get i ≤ 0) :
    ∃ i, s.passive.get i = true ∧ z.get i ≤ 0 ∧
      (∀ j, (s.retreat z).point.get j = s.point.get j +
        hitting (s.point.get i) (z.get i) * ((s.accept z).point.get j - s.point.get j)) ∧
      (s.retreat z).Aligned := by
  obtain ⟨i, hi, hzi, -, hstop, -⟩ :=
    stop_eq (fun j _ => not_lt.mp (h.nonneg j)) (exists_free hz)
  refine ⟨i, State.mem_free.mp hi, hzi, fun j => ?_, fun j hj => ?_, (h.retreat z).zero⟩
  · rw [h.retreat_point_get hz, hstop]
  · cases s.retreated le_rfl z j with
    | pinned _ _ hpassive => exact absurd (hj.symm.trans hpassive) (by simp)
    | released _ _ _ hpassive => exact absurd (hj.symm.trans hpassive) (by simp)
    | kept _ _ hpos hpoint _ =>
      rw [hpoint]
      exact not_le.mp hpos

end State.Feasible

end ReachMixture.LeastSquares.ActiveSet
