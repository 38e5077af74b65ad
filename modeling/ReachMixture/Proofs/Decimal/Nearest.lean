import ReachMixture.Proofs.Decimal.Interval
import ReachMixture.Proofs.Order

/-!
# What numbers are rounded to

A quotient is rounded at the exponent where 53 of its binary digits end. Around
a floating-point number that is its own exponent or, for numbers below a power
of two, the one before it. Either way, what lies in the interval around the
number is rounded to it.

- `Decimal.roundDiv_eq_of_near`: the rounded quotient is the natural number
  within one half.
- `Rounds`: what a rational number is rounded to.
- `rounds_roundWithAccuracy`: rounding with a remainder does that.
- `Rounds.unpack_pack_of_covers`: **numbers in the interval are rounded to the
  number in its middle**.
-/

namespace ReachMixture

namespace Decimal

/-- `roundDiv n d` is the natural number `m` within one half of `n / d`, ends
included if `m` is even. -/
theorem roundDiv_eq_of_near {n d m : ℕ} (hd : 0 < d)
    (hlow : d * (2 * m) < 2 * n + d ∨ m % 2 = 0 ∧ d * (2 * m) = 2 * n + d)
    (hhigh : 2 * n < d * (2 * m + 1) ∨ m % 2 = 0 ∧ 2 * n = d * (2 * m + 1)) :
    roundDiv n d = m := by
  have hdiv := Nat.div_add_mod n d
  have hmod := Nat.mod_lt n hd
  have hleft : d * (2 * m) = 2 * (d * m) := by ring
  have hright : d * (2 * m + 1) = 2 * (d * m) + d := by ring
  -- the quotient is `m`, or `m - 1` and rounded up
  have hle : n / d ≤ m := by
    by_contra hlt
    have hmul := Nat.mul_le_mul_left d (Nat.succ_le_of_lt (not_le.mp hlt))
    rw [Nat.mul_succ] at hmul
    omega
  have hge : m ≤ n / d + 1 := by
    by_contra hlt
    have hmul := Nat.mul_le_mul_left d (Nat.succ_le_of_lt (not_le.mp hlt))
    rw [Nat.mul_succ, Nat.mul_succ] at hmul
    omega
  rw [roundDiv_eq]
  rcases hle.lt_or_eq with hlt | rfl
  · obtain rfl : m = n / d + 1 := by omega
    have hsucc : d * (n / d + 1) = d * (n / d) + d := Nat.mul_succ _ _
    split_ifs <;> omega
  · split_ifs <;> omega

end Decimal

open Float.Model Float.Model.UnpackedFloat

namespace Binary64

open Decimal

/-- The number that a rational one is rounded to: it is written as
`num / den * 2 ^ last`, where `last` belongs to the last of its 53 digits or is
`-1074`, and the quotient goes through `roundDiv`. -/
inductive Rounds : ℚ → UnpackedFloat → Prop where
  | of {num den : ℕ} {last : ℤ} (hden : 0 < den) (hleast : -1074 ≤ last)
      (hlt : num < den * 2 ^ 53) (hfull : last = -1074 ∨ den * 2 ^ 52 ≤ num)
      {a : UnpackedFloat}
      (ha : a =
        if h : roundDiv num den = 0 then .zero .positive
        else if roundDiv num den < 2 ^ 53 then
          .finite .positive (roundDiv num den) last (Nat.pos_of_ne_zero h)
        else .finite .positive (2 ^ 52) (last + 1) (by decide)) :
      Rounds (num / den * 2 ^ last) a

/-- **Rounding a quotient** of which `roundWithAccuracy` knows only the integer
part and on which side of a half the remainder is. -/
theorem rounds_roundWithAccuracy (num : ℕ) {den : ℕ} (hden : 0 < den) {t : ℤ}
    (ht : t ≤ lastExponent (num / den) t) :
    Rounds (num / den * 2 ^ t)
      (roundWithAccuracy Format.binary64 .positive (num / den) t
        (accuracyOfFraction (num % den) den)) := by
  have hvalue : (num : ℚ) / den * 2 ^ t =
      num / (den * 2 ^ dropped (num / den) t : ℕ) * 2 ^ lastExponent (num / den) t := by
    rw [← add_dropped ht, zpow_add₀ (by norm_num), zpow_natCast, Nat.cast_mul,
      Nat.cast_pow, Nat.cast_ofNat]
    field_simp
  have hdiv : num / (den * 2 ^ dropped (num / den) t) =
      num / den / 2 ^ dropped (num / den) t :=
    (Nat.div_div_eq_div_mul _ _ _).symm
  have hden' : 0 < den * 2 ^ dropped (num / den) t := Nat.mul_pos hden (Nat.two_pow_pos _)
  have hleast : -1074 ≤ lastExponent (num / den) t := le_max_right _ _
  rw [hvalue]
  refine .of hden' hleast ?_ ?_ ?_
  · rw [Nat.mul_comm, ← Nat.div_lt_iff_lt_mul hden', hdiv]
    exact div_dropped_lt _ _
  · rcases Nat.eq_zero_or_pos (num / den) with hzero | hpos
    · -- nothing is left above the exponent, so it is the least one
      left
      rw [hzero] at ht ⊢
      unfold lastExponent at ht ⊢
      rw [Nat.log2_zero] at ht ⊢
      omega
    · refine (full_div_dropped hpos ht).imp_right fun hfull => ?_
      rwa [Nat.mul_comm, ← Nat.le_div_iff_mul_le hden', hdiv]
  · rw [roundWithAccuracy_eq]
    simp only [add_dropped ht, rounded_fraction num hden]

/-! ## The number in the middle -/

/-- `b` is what the bit pattern of a positive number stands for: `Canonical`,
and `narrowBelow` exactly at a power of two that is not the least one. -/
structure Proper (b : Binary) : Prop where
  pos : 0 < b.significand
  canonical : Canonical b.significand b.exponent
  narrow : b.narrowBelow = true ↔ b.significand = 2 ^ 52 ∧ -1074 < b.exponent

variable {b : Binary} {num den : ℕ}

theorem two_zpow_le {c k : ℕ} (h : 2 ^ k ≤ c) (e : ℤ) :
    (2 : ℚ) ^ (k + e) ≤ c * 2 ^ e := by
  rw [zpow_add₀ (by norm_num), zpow_natCast]
  exact mul_le_mul_of_nonneg_right (by exact_mod_cast h) (by positivity)

theorem lt_two_zpow {c k : ℕ} (h : c < 2 ^ k) (e : ℤ) :
    (c : ℚ) * 2 ^ e < 2 ^ (k + e) := by
  rw [zpow_add₀ (by norm_num), zpow_natCast]
  exact mul_lt_mul_of_pos_right (by exact_mod_cast h) (by positivity)

/-- A number in the interval of `b` has the same `last` exponent. Only below a
power of two, where numbers are denser, it may be one less. -/
theorem last_of_covers (hb : Proper b) (hden : 0 < den)
    {last : ℤ} (hleast : -1074 ≤ last) (hlt : num < den * 2 ^ 53)
    (hfull : last = -1074 ∨ den * 2 ^ 52 ≤ num) (h : b.Covers (num / den * 2 ^ last)) :
    last = b.exponent ∨ last = b.exponent - 1 ∧ b.narrowBelow = true := by
  obtain ⟨hlow, hhigh⟩ := h.le
  obtain ⟨hm, hexponent, -, hdigits⟩ := hb.canonical
  have hden' : (0 : ℚ) < den := by exact_mod_cast hden
  have hbelow : (num : ℚ) / den * 2 ^ last < 2 ^ (53 + last) := by
    rw [zpow_add₀ (by norm_num)]
    refine mul_lt_mul_of_pos_right ((div_lt_iff₀ hden').mpr ?_) (by positivity)
    rw [mul_comm]
    exact_mod_cast hlt
  -- one exponent further down or up, the interval is out of reach
  rcases lt_trichotomy last b.exponent with hless | heq | hgreater
  · right
    have hnormal : 2 ^ 52 ≤ b.significand := hdigits.resolve_right (by omega)
    by_cases hnarrow : b.narrowBelow = true
    · refine ⟨?_, hnarrow⟩
      by_contra hne
      have hend : 2 ^ 53 ≤ b.lowEnd := by
        rw [Binary.lowEnd, if_pos hnarrow]
        omega
      refine absurd (hbelow.trans_le ?_) (not_lt.mpr hlow)
      exact le_trans (zpow_le_zpow_right₀ (by norm_num) (by push_cast; omega))
        (two_zpow_le hend _)
    · have hne : b.significand ≠ 2 ^ 52 :=
        fun heq => hnarrow (hb.narrow.mpr ⟨heq, by omega⟩)
      have hend : 2 ^ 54 ≤ b.lowEnd := by
        rw [Binary.lowEnd, if_neg hnarrow]
        omega
      refine absurd (hbelow.trans_le ?_) (not_lt.mpr hlow)
      exact le_trans (zpow_le_zpow_right₀ (by norm_num) (by push_cast; omega))
        (two_zpow_le hend _)
  · exact .inl heq
  · have habove : (2 : ℚ) ^ (52 + last) ≤ num / den * 2 ^ last := by
      rw [zpow_add₀ (by norm_num)]
      refine mul_le_mul_of_nonneg_right ((le_div_iff₀ hden').mpr ?_) (by positivity)
      rw [mul_comm]
      exact_mod_cast hfull.resolve_left (by omega)
    have hend : b.highEnd < 2 ^ 55 := by
      rw [Binary.highEnd]
      omega
    refine absurd (hhigh.trans_lt ((lt_two_zpow hend _).trans_le ?_)) (not_lt.mpr habove)
    exact zpow_le_zpow_right₀ (by norm_num) (by push_cast; omega)

/-- A comparison of rational numbers at a quarter of the last digit, as one of
natural numbers. -/
theorem cmp_scaled (num : ℕ) (hden : 0 < den) (c k : ℕ) (e : ℤ) :
    cmp ((c : ℚ) * 2 ^ (e - 2)) (num / den * 2 ^ (e - k)) =
      cmp (den * (c * 2 ^ k)) (4 * num) := by
  have hfactor : (0 : ℚ) < den * 2 ^ (k - e + 2) := by positivity
  have hne : (den : ℚ) ≠ 0 := by exact_mod_cast hden.ne'
  have hpow : (2 : ℚ) ^ (k - e + 2) * 2 ^ (e - 2) = 2 ^ k := by
    rw [← zpow_add₀ (by norm_num), ← zpow_natCast]
    congr 1
    ring
  have hfour : (2 : ℚ) ^ (k - e + 2) * 2 ^ (e - k) = 4 := by
    rw [← zpow_add₀ (by norm_num), show (k : ℤ) - e + 2 + (e - k) = 2 by ring]
    norm_num
  have hleft : ((den * (c * 2 ^ k) : ℕ) : ℚ) =
      den * 2 ^ (k - e + 2) * (c * 2 ^ (e - 2)) := by
    rw [Nat.cast_mul, Nat.cast_mul, Nat.cast_pow, Nat.cast_ofNat, ← hpow]
    ring
  have hright : ((4 * num : ℕ) : ℚ) =
      den * 2 ^ (k - e + 2) * (num / den * 2 ^ (e - k)) := by
    rw [mul_mul_mul_comm, mul_div_cancel₀ _ hne, hfour, Nat.cast_mul,
      Nat.cast_ofNat, mul_comm]
  rw [← Nat.strictMono_cast (α := ℚ) |>.cmp_map_eq, hleft, hright]
  exact ((strictMono_mul_left_of_pos hfactor).cmp_map_eq _ _).symm

theorem covers_scaled (hden : 0 < den) {k : ℕ}
    (h : b.Covers (num / den * 2 ^ (b.exponent - k))) :
    (den * (b.lowEnd * 2 ^ k) < 4 * num ∨ b.significand % 2 = 0 ∧
      den * (b.lowEnd * 2 ^ k) = 4 * num) ∧
    (4 * num < den * (b.highEnd * 2 ^ k) ∨ b.significand % 2 = 0 ∧
      4 * num = den * (b.highEnd * 2 ^ k)) := by
  have hbelow := cmp_scaled num hden b.lowEnd k b.exponent
  have habove := cmp_eq_cmp_symm.mp (cmp_scaled num hden b.highEnd k b.exponent)
  obtain ⟨hlow, hhigh⟩ := h
  rw [lt_iff_lt_of_cmp_eq_cmp hbelow, eq_iff_eq_of_cmp_eq_cmp hbelow] at hlow
  rw [lt_iff_lt_of_cmp_eq_cmp habove, eq_iff_eq_of_cmp_eq_cmp habove] at hhigh
  exact ⟨hlow, hhigh⟩

/-- At the exponent of `b`, `roundDiv` takes the whole interval to
`b.significand`. -/
theorem roundDiv_of_covers (hb : Proper b) (hden : 0 < den)
    (h : b.Covers (num / den * 2 ^ b.exponent)) :
    roundDiv num den = b.significand := by
  have hpos := hb.pos
  have hplace : b.Covers (num / den * 2 ^ (b.exponent - (0 : ℕ))) := by
    rwa [Nat.cast_zero, sub_zero]
  obtain ⟨hlow, hhigh⟩ := covers_scaled hden hplace
  have hmiddle : den * (4 * b.significand) = 4 * (den * b.significand) := by ring
  have hend : den * b.highEnd = den * (4 * b.significand) + den * 2 := Nat.mul_add _ _ _
  rw [pow_zero, Nat.mul_one] at hlow hhigh
  -- the lower end is half a place or, where `narrowBelow`, a quarter below
  have hlower : den * b.lowEnd + den * 2 = den * (4 * b.significand) ∨
      den * b.lowEnd + den = den * (4 * b.significand) := by
    rw [← Nat.mul_add, ← Nat.mul_succ, Binary.lowEnd]
    split
    · right
      congr 1
      omega
    · left
      congr 1
      omega
  refine roundDiv_eq_of_near hden ?_ ?_
  · have htwice : den * (2 * b.significand) = 2 * (den * b.significand) := by ring
    omega
  · have htwice : den * (2 * b.significand + 1) =
        2 * (den * b.significand) + den := by ring
    omega

/-- At the exponent below it, where `narrowBelow`, `roundDiv` takes the interval
to `2 ^ 53`, which is `b.significand` one place further. -/
theorem roundDiv_of_covers_narrow (hb : Proper b)
    (hnarrow : b.narrowBelow = true) (hden : 0 < den) (hlt : num < den * 2 ^ 53)
    (h : b.Covers (num / den * 2 ^ (b.exponent - 1))) : roundDiv num den = 2 ^ 53 := by
  have hplace : b.Covers (num / den * 2 ^ (b.exponent - (1 : ℕ))) := by rwa [Nat.cast_one]
  obtain ⟨hlow, -⟩ := covers_scaled hden hplace
  have hdown : den * (b.lowEnd * 2 ^ 1) + den * 2 = 2 * (den * (2 * 2 ^ 53)) := by
    have hend : b.lowEnd * 2 ^ 1 + 2 = 2 * (2 * 2 ^ 53) := by
      rw [Binary.lowEnd, if_pos hnarrow, (hb.narrow.mp hnarrow).1]
      norm_num
    rw [← Nat.mul_add, hend, Nat.mul_left_comm]
  generalize den * (b.lowEnd * 2 ^ 1) = low at hlow hdown
  refine roundDiv_eq_of_near hden ?_ (.inl ?_)
  · generalize den * (2 * 2 ^ 53) = middle at hdown ⊢
    rcases hlow with hless | ⟨-, heq⟩
    · exact .inl (by omega)
    · exact .inr ⟨by norm_num, by omega⟩
  · have htwice : den * (2 * 2 ^ 53 + 1) = 2 * (den * 2 ^ 53) + den := by ring
    omega

/-- **Numbers in the interval are rounded to the number in its middle**, once
packed. -/
theorem Rounds.unpack_pack_of_covers (hb : Proper b) {v : ℚ} {a : UnpackedFloat}
    (h : Rounds v a) (hv : b.Covers v) :
    (Float.Model.pack a).unpack = .finite .positive b.significand b.exponent hb.pos := by
  obtain ⟨hden, hleast, hlt, hfull, ha⟩ := h
  rw [← hb.canonical.unpack_pack hb.pos, ha]
  rcases last_of_covers hb hden hleast hlt hfull hv with rfl | ⟨rfl, hnarrow⟩
  · have hround := roundDiv_of_covers hb hden hv
    simp only [hround, hb.pos.ne', dif_neg, not_false_eq_true, if_pos hb.canonical.lt]
  · have hround := roundDiv_of_covers_narrow hb hnarrow hden hlt hv
    have hmiddle := (hb.narrow.mp hnarrow).1
    simp only [hround, hmiddle, sub_add_cancel]
    rfl

end Binary64

end ReachMixture
