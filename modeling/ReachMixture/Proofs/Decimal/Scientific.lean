import ReachMixture.Decimal.Reader
import ReachMixture.Proofs.Decimal.Nearest
import ReachMixture.Proofs.Random.Below

/-!
# Numbers in decimal notation

A decimal number becomes a floating-point number by one multiplication or
division with a power of ten that is exact itself. So it is rounded once, as the
quotient that it stands for.

- `rounds_mul`, `rounds_div`: products and quotients are rounded once.
- `unpack_powersOfTen`: the powers of ten that are floating-point numbers.
- `exists_rounds_ofScientific`: **decimal numbers are rounded once**, whichever
  way they are converted.
- `unpack_nearest`: numbers in the interval around a floating-point number are
  read as it.
-/

namespace ReachMixture

open Float.Model Float.Model.UnpackedFloat

namespace Binary64

/-! ## Products and quotients -/

/-- Shifting `m` to the smaller exponent `t` does not change `m * 2 ^ e`. -/
theorem cast_shiftLeft (m : ℕ) {e t : ℤ} (h : t ≤ e) :
    ((m <<< (e - t).toNat : ℕ) : ℚ) * 2 ^ t = m * 2 ^ e := by
  rw [Nat.shiftLeft_eq, Nat.cast_mul, Nat.cast_pow, Nat.cast_ofNat, ← zpow_natCast,
    Int.toNat_of_nonneg (by omega), mul_assoc, ← zpow_add₀ (by norm_num), sub_add_cancel]

theorem rounds_mul (m m' : ℕ) (e e' : ℤ) (h : e + e' ≤ lastExponent (m * m') (e + e')) :
    Rounds (m * 2 ^ e * (m' * 2 ^ e'))
      (roundWithAccuracy Format.binary64 .positive (m * m') (e + e') .exact) := by
  have hrounds := rounds_roundWithAccuracy (m * m') Nat.one_pos (t := e + e')
    (by rwa [Nat.div_one])
  rw [Nat.div_one, Nat.mod_one, Nat.cast_one, div_one, Nat.cast_mul,
    zpow_add₀ (by norm_num)] at hrounds
  rw [mul_mul_mul_comm]
  exact hrounds

/-- The dividend is shifted so far that the quotient has the digits that
rounding keeps. -/
theorem le_lastExponent_div {m m' : ℕ} {e t : ℤ} (hm : 0 < m) (hm' : 0 < m') (ht : t ≤ e)
    (htarget : t ≤ max (m.log2 + e - m'.log2 - 53) (-1074)) :
    t ≤ lastExponent (m <<< (e - t).toNat / m') t := by
  unfold lastExponent
  by_cases hleast : t ≤ -1074
  · omega
  · have hfull : 2 ^ 52 ≤ m <<< (e - t).toNat / m' := by
      rw [Nat.le_div_iff_mul_le hm']
      calc 2 ^ 52 * m' ≤ 2 ^ 52 * 2 ^ (m'.log2 + 1) :=
        Nat.mul_le_mul_left _ Nat.lt_log2_self.le
        _ = 2 ^ (m'.log2 + 53) := by rw [← Nat.pow_add]; congr 1; omega
        _ ≤ 2 ^ (m <<< (e - t).toNat).log2 := by
          refine Nat.pow_le_pow_right (by decide) ?_
          rw [log2_shiftLeft hm]
          omega
        _ ≤ m <<< (e - t).toNat := Nat.log2_self_le (Nat.shiftLeft_pos_iff.mpr hm).ne'
    have hlog := (Nat.le_log2
      (Nat.ne_zero_of_lt (Nat.lt_of_lt_of_le (Nat.two_pow_pos 52) hfull))).mpr hfull
    omega

theorem rounds_div {m m' : ℕ} (e e' : ℤ) (hm : 0 < m) (hm' : 0 < m') :
    Rounds (m * 2 ^ e / (m' * 2 ^ e'))
      (UnpackedFloat.div Format.binary64 (.finite .positive m e hm)
        (.finite .positive m' e' hm')) := by
  have htarget : Format.binary64.targetExponent
      (totalExponent m e - totalExponent m' e') =
      max (m.log2 + (e - e') - m'.log2 - 53) (-1074) := by
    simp only [Format.targetExponent, totalExponent,
      Format.mantissaBits, Format.minExponent]
    omega
  simp only [UnpackedFloat.div, divCore, htarget]
  generalize ht : min (e - e') (max ((m.log2 : ℤ) + (e - e') - m'.log2 - 53) (-1074)) = t
  have hle : t ≤ e - e' := ht ▸ min_le_left _ _
  have hvalue : (m : ℚ) * 2 ^ e / (m' * 2 ^ e') =
      (m <<< (e - e' - t).toNat : ℕ) / m' * 2 ^ t := by
    rw [div_mul_eq_mul_div, cast_shiftLeft m hle, zpow_sub₀ (by norm_num),
      ← mul_div_assoc, div_div]
    congr 1
    ring
  rw [hvalue]
  exact rounds_roundWithAccuracy _ hm'
    (le_lastExponent_div hm hm' hle (ht ▸ min_le_right _ _))

/-! ## Powers of ten -/

/-- The mantissa of `10 ^ e`, with its leading bit in front. -/
def tenMantissa (e : ℕ) : ℕ := 10 ^ e * 2 ^ 52 / 2 ^ (10 ^ e).log2

/-- **The tabulated powers of ten** are exact. -/
theorem unpack_powersOfTen (e : Fin Float.exactlyRepresentablePowersOfTen.size) :
    ∃ hpos, Float.exactlyRepresentablePowersOfTen[e].toModel.unpack =
      .finite .positive (tenMantissa e) ((10 ^ e.val).log2 - 52) hpos := by
  change Fin 23 at e
  fin_cases e <;> exact ⟨by decide +kernel, rfl⟩

theorem tenMantissa_mul {e : ℕ} (he : e < 23) :
    (tenMantissa e : ℚ) * 2 ^ ((10 ^ e).log2 - 52 : ℤ) = 10 ^ e := by
  have hexact : ∀ e < 23, tenMantissa e * 2 ^ (10 ^ e).log2 =
      10 ^ e * 2 ^ 52 := by decide +kernel
  have hcast : (tenMantissa e : ℚ) * 2 ^ (10 ^ e).log2 = 10 ^ e * 2 ^ 52 := by
    exact_mod_cast hexact e he
  rw [zpow_sub₀ (by norm_num), zpow_natCast, ← mul_div_assoc, hcast]
  exact mul_div_cancel_right₀ _ (by positivity)

/-! ## Decimal numbers -/

theorem unpack_div {u v : Float} {m m' : ℕ} {e e' : ℤ} {hm : 0 < m} {hm' : 0 < m'}
    (hu : u.toModel.unpack = .finite .positive m e hm)
    (hv : v.toModel.unpack = .finite .positive m' e' hm') :
    (u / v).toModel.unpack = (Float.Model.pack (UnpackedFloat.div Format.binary64
      (.finite .positive m e hm) (.finite .positive m' e' hm'))).unpack := by
  rw [← hu, ← hv]
  rfl

/-- Naturals below `2 ^ 53` are converted without rounding. -/
theorem exists_unpack_toFloat {m : ℕ} (hm : 0 < m) (hlt : m < 2 ^ 53) :
    ∃ p q hp, m.toUInt64.toFloat.toModel.unpack = .finite .positive p q hp ∧
      (p : ℚ) * 2 ^ q = m := by
  have hnat : m.toUInt64.toNat = m := by
    rw [Nat.toUInt64_eq, UInt64.toNat_ofNat']
    omega
  have hlog : m.log2 < 53 := (Nat.log2_lt hm.ne').mpr hlt
  have hunpack := unpack_toFloat (w := m.toUInt64) (by rwa [hnat]) (by rwa [hnat])
  simp only [hnat] at hunpack
  refine ⟨_, _, _, hunpack, ?_⟩
  have hshift : (52 - m.log2) = (0 - ((m.log2 : ℤ) - 52)).toNat := by omega
  rw [hshift, cast_shiftLeft m (by omega), zpow_zero, mul_one]

/-- `UnpackedFloat.ofScientific` rounds once. It appends enough digits before it
divides by a power of ten. -/
theorem rounds_ofScientific {m : ℕ} (hm : 0 < m) {e : ℤ} (hlarge : e ≤ 2048)
    (hsmall : -(2048 + m.log2) ≤ e) :
    Rounds (m * 10 ^ e) (UnpackedFloat.ofScientific Format.binary64 m e) := by
  have hbits : ((2 : ℤ) ^ Format.binary64.exponentBits) = 2048 := rfl
  rw [UnpackedFloat.ofScientific, dif_neg hm.ne', if_neg (by omega), if_neg (by omega)]
  split
  · next hnonneg =>
    -- shifted by 53 digits, the product has as many as rounding keeps
    have hpos : 0 < m <<< 53 * 10 ^ e.toNat :=
      Nat.mul_pos (Nat.shiftLeft_pos_iff.mpr hm) (Nat.pow_pos (by decide))
    have hdigits : 2 ^ 53 ≤ m <<< 53 * 10 ^ e.toNat := by
      rw [Nat.shiftLeft_eq]
      exact (Nat.le_mul_of_pos_left _ hm).trans
        (Nat.le_mul_of_pos_right _ (Nat.pow_pos (by decide)))
    have hlog := (Nat.le_log2 hpos.ne').mpr hdigits
    have hrounds := rounds_mul (m <<< 53) (10 ^ e.toNat) (-53) 0
      (by unfold lastExponent; omega)
    have hvalue : ((m <<< 53 : ℕ) : ℚ) * 2 ^ (-53 : ℤ) = m := by
      have hshift := cast_shiftLeft m (show (-53 : ℤ) ≤ 0 by decide)
      rwa [zpow_zero, mul_one] at hshift
    rw [hvalue, Nat.cast_pow, Nat.cast_ofNat, ← zpow_natCast,
      Int.toNat_of_nonneg hnonneg, zpow_zero, mul_one] at hrounds
    exact hrounds
  · next hneg =>
    have hrounds := rounds_div 0 0 hm
      (Nat.pow_pos (n := (-e).toNat) (show 0 < 10 by decide))
    rw [zpow_zero, mul_one, mul_one, Nat.cast_pow, Nat.cast_ofNat, ← zpow_natCast,
      Int.toNat_of_nonneg (by omega), zpow_neg, div_inv_eq_mul] at hrounds
    exact hrounds

/-- **Decimal numbers are rounded once** by `Float.ofScientific`, whether the
power of ten is taken from the table or computed. -/
theorem exists_rounds_ofScientific {m : ℕ} (hm : 0 < m) (s : Bool) (e : ℕ)
    (hlarge : s = false → e ≤ 2048) (hsmall : s = true → e ≤ 2048 + m.log2) :
    ∃ a, Rounds (m * 10 ^ (if s then Int.negOfNat e else Int.ofNat e)) a ∧
      (Float.ofScientific m s e).toModel.unpack = (Float.Model.pack a).unpack := by
  -- small mantissas and exponents are multiplied or divided by an exact power
  -- of ten
  by_cases hfast : m < 2 ^ 53 ∧ e ≤ 22
  · obtain ⟨p, q, hp, hunpack, hvalue⟩ := exists_unpack_toFloat hm hfast.1
    have he : e < Float.exactlyRepresentablePowersOfTen.size := Nat.lt_succ_of_le hfast.2
    obtain ⟨hpos, hten⟩ := unpack_powersOfTen ⟨e, he⟩
    have htenvalue := tenMantissa_mul he
    rw [Float.ofScientific, dif_pos hfast]
    cases s with
    | true =>
      have hrounds := rounds_div q ((10 ^ e).log2 - 52) hp hpos
      rw [hvalue, htenvalue] at hrounds
      refine ⟨_, ?_, unpack_div hunpack hten⟩
      rw [if_pos rfl, Int.negOfNat_eq, zpow_neg, Int.ofNat_eq_natCast,
        zpow_natCast, ← div_eq_mul_inv]
      exact hrounds
    | false =>
      have hrounds := rounds_mul _ _ _ _ (le_lastExponent_mul hp
        (canonical_of_unpack hunpack) hpos (canonical_of_unpack hten))
      rw [hvalue, htenvalue] at hrounds
      exact ⟨_, hrounds, unpack_mul_finite hunpack hten⟩
  · rw [Float.ofScientific, dif_neg hfast]
    have hrange : (if s then Int.negOfNat e else Int.ofNat e) ≤ 2048 ∧
        -(2048 + m.log2 : ℤ) ≤ (if s then Int.negOfNat e else Int.ofNat e) := by
      cases s with
      | true =>
        have hle := hsmall rfl
        rw [if_pos rfl, Int.negOfNat_eq, Int.ofNat_eq_natCast]
        omega
      | false =>
        have hle := hlarge rfl
        rw [if_neg Bool.false_ne_true, Int.ofNat_eq_natCast]
        omega
    exact ⟨_, rounds_ofScientific hm hrange.1 hrange.2, rfl⟩

/-! ## Numbers that are read -/

open Decimal

/-- The number of decimal digits, estimated from the binary logarithm `l` as
`nearest` does. -/
def decimalDigits (l : ℕ) : ℕ := l * 30103 / 100000

theorem ten_pow_le_two_pow {l : ℕ} (h : l ≤ 20000) :
    10 ^ decimalDigits l ≤ 2 ^ (l + 1) := by
  have hpowers : 10 ^ 59 ≤ 2 ^ 196 := by norm_num
  refine (Nat.pow_le_pow_iff_left (n := 59) (by decide)).mp ?_
  calc (10 ^ decimalDigits l) ^ 59 = (10 ^ 59) ^ decimalDigits l := Nat.pow_right_comm ..
    _ ≤ (2 ^ 196) ^ decimalDigits l := Nat.pow_le_pow_left hpowers _
    _ = 2 ^ (196 * decimalDigits l) := (Nat.pow_mul ..).symm
    _ ≤ 2 ^ ((l + 1) * 59) :=
      Nat.pow_le_pow_right (by decide) (by unfold decimalDigits; omega)
    _ = (2 ^ (l + 1)) ^ 59 := Nat.pow_mul ..

theorem two_pow_le_ten_pow {l : ℕ} (h : l ≤ 20000) :
    2 ^ l ≤ 10 ^ (decimalDigits l + 2) := by
  have hpowers : 2 ^ 93 ≤ 10 ^ 28 := by norm_num
  refine (Nat.pow_le_pow_iff_left (n := 93) (by decide)).mp ?_
  calc (2 ^ l) ^ 93 = (2 ^ 93) ^ l := Nat.pow_right_comm ..
    _ ≤ (10 ^ 28) ^ l := Nat.pow_le_pow_left hpowers l
    _ = 10 ^ (28 * l) := (Nat.pow_mul ..).symm
    _ ≤ 10 ^ ((decimalDigits l + 2) * 93) :=
      Nat.pow_le_pow_right (by decide) (by unfold decimalDigits; omega)
    _ = (10 ^ (decimalDigits l + 2)) ^ 93 := Nat.pow_mul ..

variable {b : Binary}

/-- Every number in the interval of a `Proper` value lies in
`[2^-1075, 2^1024)`. -/
theorem Proper.range (hb : Proper b) {v : ℚ} (h : b.Covers v) :
    (2 : ℚ) ^ (-1075 : ℤ) ≤ v ∧ v < 2 ^ (1024 : ℤ) := by
  obtain ⟨hlow, hhigh⟩ := h.le
  obtain ⟨hlt, hleast, hlargest, -⟩ := hb.canonical
  have hpos := hb.pos
  have hlowEnd : 2 ^ 1 ≤ b.lowEnd := by
    rw [Binary.lowEnd]
    split <;> omega
  have hhighEnd : b.highEnd < 2 ^ 55 := by
    rw [Binary.highEnd]
    omega
  constructor
  · refine le_trans ?_ ((two_zpow_le hlowEnd _).trans hlow)
    exact zpow_le_zpow_right₀ (by norm_num) (by push_cast; omega)
  · refine hhigh.trans_lt ((lt_two_zpow hhighEnd _).trans_le ?_)
    exact zpow_le_zpow_right₀ (by norm_num) (by push_cast; omega)

/-- `8 ^ k ≤ 10 ^ k ≤ 16 ^ k` in powers of two. -/
theorem ten_zpow_bounds {k : ℤ} (hk : 0 ≤ k) : (2 : ℚ) ^ (3 * k) ≤ 10 ^ k ∧
    (10 : ℚ) ^ k ≤ 2 ^ (4 * k) := by
  rw [zpow_mul, zpow_mul]
  exact ⟨zpow_le_zpow_left₀ hk (by norm_num) (by norm_num),
    zpow_le_zpow_left₀ hk (by norm_num) (by norm_num)⟩

theorem ten_zpow_neg_bounds {k : ℤ} (hk : k ≤ 0) : (2 : ℚ) ^ (4 * k) ≤ 10 ^ k ∧
    (10 : ℚ) ^ k ≤ 2 ^ (3 * k) := by
  obtain ⟨hlow, hhigh⟩ := ten_zpow_bounds (neg_nonneg.mpr hk)
  rw [mul_neg, zpow_neg, zpow_neg] at hlow hhigh
  exact ⟨(inv_le_inv₀ (by positivity) (by positivity)).mp hhigh,
    (inv_le_inv₀ (by positivity) (by positivity)).mp hlow⟩

theorem log2_le_of_range {D : ℕ} {E : ℤ} (hD : 0 < D) (hE : -2000 ≤ E)
    (h : (D : ℚ) * 10 ^ E < 2 ^ (1024 : ℤ)) :
    D.log2 ≤ 20000 := by
  by_contra hlarge
  have hdigits : (2 : ℚ) ^ (D.log2 : ℤ) ≤ D := by
    rw [zpow_natCast]
    exact_mod_cast Nat.log2_self_le hD.ne'
  have hten : (2 : ℚ) ^ (4 * (-2000) : ℤ) ≤ 10 ^ E :=
    (ten_zpow_neg_bounds (by decide)).1.trans (zpow_le_zpow_right₀ (by norm_num) hE)
  refine absurd h (not_lt.mpr ?_)
  calc (2 : ℚ) ^ (1024 : ℤ) ≤ 2 ^ ((D.log2 : ℤ) + 4 * (-2000)) :=
    zpow_le_zpow_right₀ (by norm_num) (by omega)
    _ = 2 ^ (D.log2 : ℤ) * 2 ^ (4 * (-2000) : ℤ) := zpow_add₀ (by norm_num) _ _
    _ ≤ D * 10 ^ E := mul_le_mul hdigits hten (by positivity) (by positivity)

/-- The size estimate of `nearest` is between `-400` and `400` for numbers in
range. -/
theorem size_of_range {D : ℕ} {E : ℤ} (hD : 0 < D)
    (hE : -2000 ≤ E) (hlow : (2 : ℚ) ^ (-1075 : ℤ) ≤ D * 10 ^ E)
    (hhigh : (D : ℚ) * 10 ^ E < 2 ^ (1024 : ℤ)) :
    -400 ≤ (decimalDigits D.log2 : ℤ) + E ∧ (decimalDigits D.log2 : ℤ) + E ≤ 400 := by
  have hlog := log2_le_of_range hD hE hhigh
  have hten : (0 : ℚ) ≤ 10 ^ E := by positivity
  constructor
  -- with too few digits the number would be below the range, with too many
  -- above it
  · by_contra hsmall
    have hdigits : (D : ℚ) ≤ 2 ^ (1 : ℤ) * 10 ^ (decimalDigits D.log2 + 2 : ℤ) := by
      have hlt : D < 2 * 2 ^ D.log2 := Nat.pow_succ' ▸ Nat.lt_log2_self
      rw [zpow_one]
      exact_mod_cast hlt.le.trans (Nat.mul_le_mul_left 2 (two_pow_le_ten_pow hlog))
    refine absurd hlow (not_le.mpr ?_)
    calc (D : ℚ) * 10 ^ E ≤ 2 ^ (1 : ℤ) * 10 ^ (decimalDigits D.log2 + 2 : ℤ) *
      10 ^ E := mul_le_mul_of_nonneg_right hdigits hten
      _ = 2 ^ (1 : ℤ) * 10 ^ ((decimalDigits D.log2 + 2 : ℤ) + E) := by
        rw [mul_assoc, ← zpow_add₀ (by norm_num)]
      _ ≤ 2 ^ (1 : ℤ) * 2 ^ (3 * (decimalDigits D.log2 + 2 + E)) :=
        mul_le_mul_of_nonneg_left (ten_zpow_neg_bounds (by omega)).2 (by positivity)
      _ = 2 ^ (1 + 3 * (decimalDigits D.log2 + 2 + E)) :=
        (zpow_add₀ (by norm_num) _ _).symm
      _ < 2 ^ (-1075 : ℤ) := zpow_lt_zpow_right₀ (by norm_num) (by omega)
  · by_contra hlarge
    have hdigits : (10 : ℚ) ^ (decimalDigits D.log2 : ℤ) ≤ 2 ^ (1 : ℤ) * D := by
      have hle : 2 ^ (D.log2 + 1) ≤ 2 * D := by
        rw [Nat.pow_succ']
        exact Nat.mul_le_mul_left 2 (Nat.log2_self_le hD.ne')
      rw [zpow_one]
      exact_mod_cast (ten_pow_le_two_pow hlog).trans hle
    refine absurd hhigh (not_lt.mpr
      ((mul_le_mul_iff_of_pos_left (show (0 : ℚ) < 2 ^ (1 : ℤ) by positivity)).mp ?_))
    calc (2 : ℚ) ^ (1 : ℤ) * 2 ^ (1024 : ℤ) = 2 ^ (1 + 1024 : ℤ) :=
      (zpow_add₀ (by norm_num) _ _).symm
      _ ≤ 2 ^ (3 * (decimalDigits D.log2 + E)) :=
        zpow_le_zpow_right₀ (by norm_num) (by omega)
      _ ≤ 10 ^ (decimalDigits D.log2 + E) := (ten_zpow_bounds (by omega)).1
      _ = 10 ^ (decimalDigits D.log2 : ℤ) * 10 ^ E := zpow_add₀ (by norm_num) _ _
      _ ≤ 2 ^ (1 : ℤ) * D * 10 ^ E := mul_le_mul_of_nonneg_right hdigits hten
      _ = 2 ^ (1 : ℤ) * (D * 10 ^ E) := mul_assoc _ _ _

/-- **Numbers in the interval are read as the number in its middle** by
`nearest`. They are far from where it answers zero or infinity without looking
at the digits. -/
theorem unpack_nearest (hb : Proper b) {D : ℕ} {E : ℤ} (hE : -2000 ≤ E)
    (h : b.Covers (D * 10 ^ E)) :
    (nearest D E).toModel.unpack = .finite .positive b.significand b.exponent hb.pos := by
  obtain ⟨hlow, hhigh⟩ := hb.range h
  have hD : 0 < D := by
    refine Nat.pos_of_ne_zero ?_
    rintro rfl
    rw [Nat.cast_zero, zero_mul] at hlow
    exact absurd hlow (not_le.mpr (by positivity))
  obtain ⟨hsmall, hlarge⟩ := size_of_range hD hE hlow hhigh
  have hdigits : decimalDigits D.log2 ≤ D.log2 := by
    unfold decimalDigits
    omega
  change (if (decide (D = 0) || decide ((decimalDigits D.log2 : ℤ) + E < -400)) = true
    then (0.0 : Float)
    else if 400 < (decimalDigits D.log2 : ℤ) + E then 1.0 / 0.0
    else if E < 0 then Float.ofScientific D true E.natAbs
    else Float.ofScientific D false E.natAbs).toModel.unpack = _
  -- neither of the shortcuts is taken
  rw [if_neg (by simp [hD.ne', hsmall]), if_neg (not_lt.mpr hlarge)]
  split
  · next hneg =>
    obtain ⟨a, hrounds, hunpack⟩ := exists_rounds_ofScientific hD true E.natAbs
      (fun h => by cases h) (fun _ => by omega)
    have hexponent : Int.negOfNat E.natAbs = E := by
      rw [Int.negOfNat_eq, Int.ofNat_eq_natCast]
      omega
    rw [if_pos rfl, hexponent] at hrounds
    rw [hunpack, hrounds.unpack_pack_of_covers hb h]
  · next hnonneg =>
    obtain ⟨a, hrounds, hunpack⟩ := exists_rounds_ofScientific hD false E.natAbs
      (fun _ => by omega) (fun h => by cases h)
    have hexponent : Int.ofNat E.natAbs = E := Int.natAbs_of_nonneg (not_lt.mp hnonneg)
    rw [if_neg Bool.false_ne_true, hexponent] at hrounds
    rw [hunpack, hrounds.unpack_pack_of_covers hb h]

end Binary64

end ReachMixture
