import ReachMixture.Proofs.Binary64

/-!
# Numbers below one

Uniform numbers are words of 52 bits over `2^52`. Such a word is a
floating-point number without rounding, and so is its quotient by a power of
two. So the quotients stay below one, as the numbers do that they stand for.

- `Binary64.unpack_toFloat`: words of up to 53 bits are converted without
  rounding.
- `Binary64.div_two_pow`: the quotient by `2^52`.
- `unpack_unit`: what uniform numbers stand for.
- `unit_bounds`: uniform numbers are not negative and smaller than one.
-/

namespace ReachMixture

open Float.Model Float.Model.UnpackedFloat

namespace Binary64

/-- A number of at most 53 bits fills the mantissa when its leading bit is moved
to the front. -/
theorem shiftLeft_bounds {n : Nat} (hpos : 0 < n) (hlog : n.log2 < 53) :
    2 ^ 52 ≤ n <<< (52 - n.log2) ∧ n <<< (52 - n.log2) < 2 ^ 53 := by
  refine (Nat.log2_eq_iff (Nat.shiftLeft_pos_iff.mpr hpos).ne').mp ?_
  rw [log2_shiftLeft hpos]
  omega

/-- **Words of up to 53 bits are converted without rounding.** `UInt64.toFloat`
moves the leading bit to the front of the mantissa. -/
theorem unpack_toFloat {w : UInt64} (hpos : 0 < w.toNat) (hlt : w.toNat < 2 ^ 53) :
    w.toFloat.toModel.unpack =
      .finite .positive (w.toNat <<< (52 - w.toNat.log2)) (w.toNat.log2 - 52)
        (Nat.shiftLeft_pos_iff.mpr hpos) := by
  change (Float.Model.pack
    (UnpackedFloat.normalize Format.binary64 w.toNat 0 .positive)).unpack = _
  generalize w.toNat = n at hpos hlt
  have hlog : n.log2 < 53 := (Nat.log2_lt hpos.ne').mpr hlt
  have hcompare : compare (n : Int) 0 = .gt :=
    Int.compare_eq_gt.mpr (by exact_mod_cast hpos)
  obtain ⟨hlow, hhigh⟩ := shiftLeft_bounds hpos hlog
  have hamount : (0 - max ((n.log2 : Int) + 0 - 52) (-1074)).toNat =
      52 - n.log2 := by omega
  have hexponent : (0 : Int) - ((52 - n.log2 : Nat) : Int) = n.log2 - 52 := by omega
  simp only [UnpackedFloat.normalize, hcompare, Int.toNat_natCast, UnpackedFloat.round,
    targetExponent_eq, decreaseExponent, hamount, hexponent]
  rw [roundWithAccuracy_exact (Nat.shiftLeft_pos_iff.mpr hpos) hhigh (by omega),
    unpack_pack_finite .positive _ hhigh (by omega), if_neg (by omega), if_pos hlow]

/-- **The quotient of a number with a full mantissa by `2^52`** has the same
mantissa. -/
theorem div_two_pow {m : Nat} {e : Int} (hpos : 0 < m) (hm : 2 ^ 52 ≤ m)
    (hm' : m < 2 ^ 53) (hlow : -52 ≤ e) (he : e < 0) :
    UnpackedFloat.div Format.binary64 (.finite .positive m e hpos)
        (.finite .positive (2 ^ 52) 0 (by decide)) =
      .finite .positive m (e - 52) hpos := by
  have hlog : m.log2 = 52 := (Nat.log2_eq_iff hpos.ne').mpr ⟨hm, hm'⟩
  have hone : (2 ^ 52 : Nat).log2 = 52 := Nat.log2_two_pow
  have htarget :
      min (e - 0) (Format.binary64.targetExponent
        (totalExponent m e - totalExponent (2 ^ 52) 0)) = e - 53 := by
    simp only [Format.targetExponent, totalExponent, Format.mantissaBits,
      Format.minExponent, hlog, hone]
    omega
  have hamount : (e - 0 - (e - 53)).toNat = 53 := by omega
  -- the dividend is shifted so far that the quotient has one digit too many,
  -- which is zero
  have hquotient : m <<< 53 / 2 ^ 52 = 2 * m := by
    rw [Nat.shiftLeft_eq]
    omega
  have hremainder : m <<< 53 % 2 ^ 52 = 0 := by
    rw [Nat.shiftLeft_eq]
    omega
  have hdouble : (2 * m).log2 = 53 :=
    (Nat.log2_eq_iff (by omega)).mpr ⟨by omega, by omega⟩
  have hdropped : dropped (2 * m) (e - 53) = 1 := by
    unfold dropped
    omega
  have hrounded : rounded (2 * m) (e - 53) .exact = m := by
    rw [rounded_exact (by simp [hdropped]), hdropped]
    omega
  have hexponent : e - 53 + ((1 : Nat) : Int) = e - 52 := by omega
  simp only [UnpackedFloat.div, divCore, htarget, hamount, hquotient, hremainder,
    accuracyOfFraction, if_true]
  rw [roundWithAccuracy_eq, dif_neg (by omega), if_pos (by omega)]
  simp only [hrounded, hdropped, hexponent]
  rfl

theorem UpTo.bounds {v : Float} (h : UpTo (-53) v.toModel.unpack) : 0 ≤ v ∧ v < 1 := by
  rw [float_le_iff, float_lt_iff]
  change Option.any _ (UnpackedFloat.compare (.zero .positive) _) = true ∧
    UnpackedFloat.compare _ (.finite .positive (2 ^ 52) (-52) (by decide)) = _
  generalize v.toModel.unpack = a at h
  cases h with
  | zero s => exact ⟨rfl, rfl⟩
  | finite m e hpos hm hlow he =>
    -- numbers with the same sign are compared by their exponents first
    have hcompare : compare e (-52) = .lt := Int.compare_eq_lt.mpr (by omega)
    refine ⟨rfl, ?_⟩
    simp [UnpackedFloat.compare, hcompare]

end Binary64

open Binary64

/-- What a uniform number stands for: zero, or the 52 bits of its word moved to
the front of the mantissa. -/
theorem unpack_unit (w : UInt64) :
    ((w >>> 12).toFloat / 4503599627370496.0).toModel.unpack = .zero .positive ∨
    ∃ n hn, n < 2 ^ 52 ∧ ((w >>> 12).toFloat / 4503599627370496.0).toModel.unpack =
      .finite .positive (n <<< (52 - n.log2)) (n.log2 - 104) hn := by
  have hlt : (w >>> 12).toNat < 2 ^ 52 := by
    rw [UInt64.toNat_shiftRight]
    have := w.toNat_lt
    show w.toNat >>> 12 < _
    rw [Nat.shiftRight_eq_div_pow]
    omega
  generalize w >>> 12 = u at hlt
  have hpower : (4503599627370496.0 : Float).toModel.unpack =
      .finite .positive (2 ^ 52) 0 (by decide) := rfl
  change (Float.Model.pack (UnpackedFloat.div Format.binary64 u.toFloat.toModel.unpack
    (4503599627370496.0 : Float).toModel.unpack)).unpack = _ ∨ ∃ n hn, n < 2 ^ 52 ∧
      (Float.Model.pack (UnpackedFloat.div Format.binary64 u.toFloat.toModel.unpack
        (4503599627370496.0 : Float).toModel.unpack)).unpack = _
  rw [hpower]
  -- a power of two divides exactly, so only the exponent changes
  rcases Nat.eq_zero_or_pos u.toNat with hzero | hpos
  · left
    obtain rfl : u = 0 := UInt64.toNat_inj.mp hzero
    rfl
  · have hlog : u.toNat.log2 < 52 := (Nat.log2_lt hpos.ne').mpr hlt
    obtain ⟨hlow, hhigh⟩ := shiftLeft_bounds hpos (hlog.trans (by decide))
    refine .inr ⟨u.toNat, Nat.shiftLeft_pos_iff.mpr hpos, hlt, ?_⟩
    have hexponent : (u.toNat.log2 : Int) - 52 - 52 = u.toNat.log2 - 104 := by omega
    rw [unpack_toFloat hpos (by omega), div_two_pow _ hlow hhigh (by omega) (by omega),
      hexponent, unpack_pack_finite .positive _ hhigh (by omega),
      if_neg (by omega), if_pos hlow]

/-- **Uniform numbers** lie in `[0, 1)`, whatever word they are made of. -/
theorem unit_bounds (w : UInt64) :
    0 ≤ (w >>> 12).toFloat / 4503599627370496.0 ∧
    (w >>> 12).toFloat / 4503599627370496.0 < 1 := by
  refine UpTo.bounds ?_
  rcases unpack_unit w with hzero | ⟨n, hn, hlt, hmodel⟩
  · rw [hzero]
    exact .zero _
  · have hpos : 0 < n := Nat.shiftLeft_pos_iff.mp hn
    have hlog : n.log2 < 52 := (Nat.log2_lt hpos.ne').mpr hlt
    rw [hmodel]
    exact .finite _ _ _ (shiftLeft_bounds hpos (hlog.trans (by decide))).2
      (by omega) (by omega)

end ReachMixture
