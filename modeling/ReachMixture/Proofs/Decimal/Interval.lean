import Mathlib
import ReachMixture.Decimal.Shortest

/-!
# The interval around a binary value

The decimals that are read as a binary value form an interval around it. Here
the interval is stated in rational numbers, and the decimal that is written for
a value lies in it, whichever grid it was found on.

- `Numeral.value`: the rational number of a decimal.
- `Binary.Covers`: the interval.
- `Binary.readsBack_iff`: membership is decided in natural numbers.
- `Binary.covers_shortest`: **the shortest decimal lies in the interval**.
-/

namespace ReachMixture.Decimal

/-- The rational number `digits * 10 ^ exponent` that a numeral stands for. -/
def Numeral.value (d : Numeral) : ℚ := d.digits * 10 ^ d.exponent

/-! ## Scaled comparisons -/

theorem zpow_mul_toNat {c : ℚ} (hc : c ≠ 0) (i : ℤ) :
    c ^ i * c ^ (-i).toNat = c ^ i.toNat := by
  rcases le_total 0 i with hi | hi
  · rw [Int.toNat_of_nonpos (by omega), pow_zero, mul_one, ← zpow_natCast,
      Int.toNat_of_nonneg hi]
  · rw [Int.toNat_of_nonpos hi, pow_zero, ← zpow_natCast,
      Int.toNat_of_nonneg (by omega), ← zpow_add₀ hc, add_neg_cancel, zpow_zero]

/-- `compareScaled` compares rational numbers. Both sides are brought to a
common positive factor. -/
theorem compareScaled_eq (a : ℕ) (i : ℤ) (b : ℕ) (j : ℤ) :
    compareScaled a i b j = compare ((a : ℚ) * 10 ^ i) (b * 2 ^ j) := by
  have hfactor : (0 : ℚ) < 10 ^ (-i).toNat * 2 ^ (-j).toNat := by positivity
  have hleft : ((a * Nat.pow 10 i.toNat * Nat.pow 2 (-j).toNat : ℕ) : ℚ) =
      (10 ^ (-i).toNat * 2 ^ (-j).toNat) * ((a : ℚ) * 10 ^ i) := by
    rw [Nat.cast_mul, Nat.cast_mul, Nat.pow_eq, Nat.pow_eq, Nat.cast_pow, Nat.cast_pow,
      Nat.cast_ofNat, Nat.cast_ofNat, ← zpow_mul_toNat (by norm_num) i]
    ring
  have hright : ((b * Nat.pow 2 j.toNat * Nat.pow 10 (-i).toNat : ℕ) : ℚ) =
      (10 ^ (-i).toNat * 2 ^ (-j).toNat) * ((b : ℚ) * 2 ^ j) := by
    rw [Nat.cast_mul, Nat.cast_mul, Nat.pow_eq, Nat.pow_eq, Nat.cast_pow, Nat.cast_pow,
      Nat.cast_ofNat, Nat.cast_ofNat, ← zpow_mul_toNat (by norm_num) j]
    ring
  rw [compareScaled, ← cmp_eq_compare, ← cmp_eq_compare,
    ← Nat.strictMono_cast (α := ℚ) |>.cmp_map_eq, hleft, hright]
  exact (strictMono_mul_left_of_pos hfactor).cmp_map_eq _ _

/-! ## The interval -/

namespace Binary

/-- The lower end of the interval, in quarters of the last binary digit. -/
def lowEnd (b : Binary) : ℕ :=
  if b.narrowBelow then 4 * b.significand - 1 else 4 * b.significand - 2

/-- The upper end of the interval, in quarters of the last binary digit. -/
def highEnd (b : Binary) : ℕ := 4 * b.significand + 2

/-- `v` lies in the rounding interval of `b`, between the midpoints to its
neighbours. The ends belong to it if the significand is even. -/
structure Covers (b : Binary) (v : ℚ) : Prop where
  low : (b.lowEnd : ℚ) * 2 ^ (b.exponent - 2) < v ∨ b.significand % 2 = 0 ∧
    (b.lowEnd : ℚ) * 2 ^ (b.exponent - 2) = v
  high : v < b.highEnd * 2 ^ (b.exponent - 2) ∨ b.significand % 2 = 0 ∧
    v = b.highEnd * 2 ^ (b.exponent - 2)

theorem Covers.le {b : Binary} {v : ℚ} (h : b.Covers v) :
    (b.lowEnd : ℚ) * 2 ^ (b.exponent - 2) ≤ v ∧ v ≤ b.highEnd * 2 ^ (b.exponent - 2) :=
  ⟨h.low.elim le_of_lt fun h => h.2.le, h.high.elim le_of_lt fun h => h.2.le⟩

theorem readsBack_iff (b : Binary) (d : Numeral) : b.readsBack d = true ↔
    b.Covers d.value := by
  have hsides : b.Covers d.value ↔
      ((b.lowEnd : ℚ) * 2 ^ (b.exponent - 2) < d.value ∨
        b.significand % 2 = 0 ∧ (b.lowEnd : ℚ) * 2 ^ (b.exponent - 2) = d.value) ∧
      (d.value < b.highEnd * 2 ^ (b.exponent - 2) ∨
        b.significand % 2 = 0 ∧ d.value = b.highEnd * 2 ^ (b.exponent - 2)) :=
    ⟨fun h => ⟨h.low, h.high⟩, fun h => ⟨h.1, h.2⟩⟩
  rw [hsides]
  change ((compareScaled d.digits d.exponent b.lowEnd (b.exponent - 2) == .gt ||
      b.significand % 2 == 0 &&
        compareScaled d.digits d.exponent b.lowEnd (b.exponent - 2) == .eq) &&
    (compareScaled d.digits d.exponent b.highEnd (b.exponent - 2) == .lt ||
      b.significand % 2 == 0 &&
        compareScaled d.digits d.exponent b.highEnd (b.exponent - 2) == .eq)) = true ↔ _
  simp only [compareScaled_eq, Bool.and_eq_true, Bool.or_eq_true, beq_iff_eq,
    compare_gt_iff_gt, compare_lt_iff_lt, compare_eq_iff_eq, Numeral.value]
  rw [eq_comm (a := (b.lowEnd : ℚ) * _)]

/-! ## The decimal that is written -/

/-- What `onGrid?` finds is a multiple of `10 ^ grid` in the interval. -/
theorem of_onGrid {b : Binary} {tie : Tie} {grid : ℤ} {d : Numeral}
    (h : b.onGrid? tie grid = some d) :
    d.exponent = grid ∧ b.Covers d.value := by
  rw [← readsBack_iff]
  rw [onGrid?] at h
  dsimp only at h
  split at h
  · next hdown hup =>
    -- both neighbours lie in the interval, so it does not matter which of them
    -- is nearer
    split at h
    · cases h; exact ⟨rfl, hdown⟩
    · cases h; exact ⟨rfl, hup⟩
    · cases h; exact ⟨rfl, hup⟩
    · split at h
      · cases h; exact ⟨rfl, hdown⟩
      · cases h; exact ⟨rfl, hup⟩
  · next hdown _ => cases h; exact ⟨rfl, hdown⟩
  · next _ hup => cases h; exact ⟨rfl, hup⟩
  · cases h

/-- `exactly` stands for the value of `b`: the powers of five make up for the
powers of two that are missing in those of ten. -/
theorem value_exactly (b : Binary) :
    b.exactly.value = b.significand * 2 ^ b.exponent := by
  rw [Numeral.value, exactly]
  dsimp only
  rw [Nat.cast_mul, Nat.cast_mul, Nat.pow_eq, Nat.pow_eq, Nat.cast_pow, Nat.cast_pow,
    Nat.cast_ofNat, Nat.cast_ofNat]
  rcases le_total 0 b.exponent with h | h
  · rw [min_eq_right h, Int.toNat_of_nonpos (neg_nonpos.mpr h), ← zpow_natCast,
      Int.toNat_of_nonneg h, pow_zero, zpow_zero, mul_one, mul_one]
  · have hfive : (5 : ℚ) ^ (-b.exponent).toNat * 10 ^ b.exponent = 2 ^ b.exponent := by
      rw [← zpow_natCast, Int.toNat_of_nonneg (neg_nonneg.mpr h), zpow_neg,
        inv_mul_eq_div, ← div_zpow]
      norm_num
    rw [min_eq_left h, Int.toNat_of_nonpos h, pow_zero, mul_one, mul_assoc, hfive]

theorem four_mul_two_zpow (m : ℕ) (e : ℤ) :
    ((4 * m : ℕ) : ℚ) * 2 ^ (e - 2) = m * 2 ^ e := by
  rw [zpow_sub₀ (by norm_num), Nat.cast_mul]
  norm_num
  ring

/-- The value of `b` lies in its own interval. -/
theorem covers_self {b : Binary} (h : b.significand ≠ 0) :
    b.Covers (b.significand * 2 ^ b.exponent) := by
  have hpow : (0 : ℚ) < 2 ^ (b.exponent - 2) := by positivity
  rw [← four_mul_two_zpow]
  refine ⟨.inl ?_, .inl ?_⟩
  · refine mul_lt_mul_of_pos_right (Nat.cast_lt.mpr ?_) hpow
    rw [lowEnd]
    split <;> omega
  · exact mul_lt_mul_of_pos_right (Nat.cast_lt.mpr (by rw [highEnd]; omega)) hpow

end Binary

theorem Numeral.value_strip (d : Numeral) (limit : ℕ) :
    (d.strip limit).value = d.value := by
  induction limit generalizing d with
  | zero => rfl
  | succ limit ih =>
    rw [Numeral.strip]
    split
    · next hzero =>
      rw [ih, Numeral.value, Numeral.value]
      have hdigits : d.digits = 10 * (d.digits / 10) := by omega
      conv_rhs => rw [hdigits]
      rw [zpow_add₀ (by norm_num), zpow_one]
      push_cast
      ring
    · rfl

/-- **The shortest decimal lies in the interval**, whether it is found on one of
the 17 grids or is `exactly` the value. -/
theorem Binary.covers_shortest {b : Binary} (h : b.significand ≠ 0) (tie : Tie) :
    b.Covers (b.shortest tie).value := by
  rw [Binary.shortest, if_neg h]
  dsimp only
  rw [Numeral.value_strip]
  cases hfound : (List.range 17).findSome? fun (n : ℕ) =>
    b.onGrid? tie (b.leading - (n : ℤ)) with
  | none =>
    rw [Option.getD_none, value_exactly]
    exact covers_self h
  | some d =>
    obtain ⟨n, -, hn⟩ := List.exists_of_findSome?_eq_some hfound
    exact (of_onGrid hn).2

/-! ## Its exponent -/

theorem Numeral.exponent_le_strip (d : Numeral) (limit : ℕ) :
    d.exponent ≤ (d.strip limit).exponent := by
  induction limit generalizing d with
  | zero => exact le_rfl
  | succ limit ih =>
    rw [Numeral.strip]
    split
    · exact (Int.le_add_one le_rfl).trans (ih ⟨d.digits / 10, d.exponent + 1⟩)
    · exact le_rfl

namespace Binary

/-- `b.leading` is at least `-325`, as the least positive number is about
`5 * 10^-324`. -/
theorem le_leading {b : Binary} (h : -1074 ≤ b.exponent) : -325 ≤ b.leading := by
  have hestimate : -324 ≤
      Int.fdiv (((Nat.log2 b.significand : ℕ) + b.exponent) * 30103) 100000 := by
    rw [Int.fdiv_eq_ediv_of_nonneg _ (by norm_num)]
    omega
  rw [leading]
  generalize Int.fdiv (((Nat.log2 b.significand : ℕ) + b.exponent) * 30103) 100000 =
    estimate at hestimate
  cases hfound : [estimate - 1, estimate, estimate + 1].find? fun e =>
    b.isBelow (e + 1) with
  | none => rw [Option.getD_none]; omega
  | some e =>
    have hmem := List.mem_of_find?_eq_some hfound
    simp only [List.mem_cons, List.not_mem_nil, or_false] at hmem
    rw [Option.getD_some]
    omega

/-- The exponent of `shortest` is not below `-1074`, the least one of binary
values. -/
theorem le_exponent_shortest {b : Binary} (h : -1074 ≤ b.exponent) (tie : Tie) :
    -1074 ≤ (b.shortest tie).exponent := by
  have hleading := le_leading h
  rw [shortest]
  split
  · decide
  · dsimp only
    refine le_trans ?_ (Numeral.exponent_le_strip _ _)
    cases hfound : (List.range 17).findSome? fun (n : ℕ) =>
      b.onGrid? tie (b.leading - (n : ℤ)) with
    | none => exact le_min h (by decide)
    | some d =>
      obtain ⟨n, hn, hgrid⟩ := List.exists_of_findSome?_eq_some hfound
      rw [Option.getD_some, (of_onGrid hgrid).1]
      have := List.mem_range.mp hn
      omega

end Binary

end ReachMixture.Decimal
