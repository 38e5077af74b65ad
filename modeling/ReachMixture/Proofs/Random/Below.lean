import ReachMixture.Proofs.Order
import ReachMixture.Proofs.Random.UnitInterval
import ReachMixture.Random.Ziggurat
import ReachMixture.Scalar

/-!
# Numbers below a total

A number below a total is a uniform number times the total. The product is
rounded, and for totals with few digits it could be rounded up to the total
itself. Then a factor is taken that is one pattern smaller. That is enough:
products are monotone although they are rounded, and uniform numbers do not make
them larger than their factor.

- `float_mul_le_mul`, `float_mul_le_right`: products are monotone.
- `Binary64.rank_pattern_lt`, `float_pred`: patterns are ordered as the numbers
  that they stand for.
- `Random.scaleBelow_cases`: the factor that the generator takes.
- `DrawsBelow`, `drawsBelow_generator`: **the generator draws below totals**.
-/

namespace ReachMixture

open Float.Model Float.Model.UnpackedFloat

/-! ## Products -/

namespace Binary64

theorem mul_comm (a b : UnpackedFloat) :
    UnpackedFloat.mul Format.binary64 a b = UnpackedFloat.mul Format.binary64 b a := by
  have hsign : ∀ s t : Sign, s * t = t * s := by
    intro s t
    cases s <;> cases t <;> rfl
  cases a <;> cases b <;> simp only [UnpackedFloat.mul, hsign, Nat.mul_comm, Int.add_comm]

/-- The exact product of `Canonical` numbers has at least the digits that
rounding keeps. -/
theorem le_lastExponent_mul {m m' : Nat} {e e' : Int} (hm : 0 < m) (hc : Canonical m e)
    (hm' : 0 < m') (hc' : Canonical m' e') : e + e' ≤ lastExponent (m * m') (e + e') := by
  have hlarge : 2 ^ 52 ≤ m ∨ 2 ^ 52 ≤ m' → 52 ≤ (m * m').log2 := by
    intro h
    rw [Nat.le_log2 (Nat.mul_pos hm hm').ne']
    rcases h with h | h
    · exact h.trans (Nat.le_mul_of_pos_right m hm')
    · exact h.trans (Nat.le_mul_of_pos_left m' hm)
  have hfull := hc.full
  have hfull' := hc'.full
  unfold lastExponent
  omega

/-- `rank`s of `Canonical` numbers are in the order of the values `m * 2 ^ e`. -/
theorem shiftLeft_le_of_rank_le {m m' : Nat} {e e' : Int} {hm : 0 < m}
    (hc : Canonical m e) {hm' : 0 < m'} (hc' : Canonical m' e')
    (h : rank (.finite .positive m e hm) ≤ rank (.finite .positive m' e' hm')) :
    m <<< (e - min e e').toNat ≤ m' <<< (e' - min e e').toNat := by
  simp only [rank, Prod.Lex.toLex_le_toLex, lt_irrefl, false_or,
    true_and, Nat.cast_le] at h
  rcases h with hlt | ⟨rfl, hle⟩
  · have hfull := hc'.full
    have hleast := hc.least_le
    have hsmall := hc.lt
    rw [min_eq_left hlt.le, Int.sub_self, Int.toNat_zero,
      Nat.shiftLeft_zero, Nat.shiftLeft_eq]
    have hpow : 2 ≤ 2 ^ (e' - e).toNat := Nat.le_self_pow (by omega) 2
    calc m ≤ m' * 2 := by omega
      _ ≤ m' * 2 ^ (e' - e).toNat := Nat.mul_le_mul_left _ hpow
  · rw [Nat.shiftLeft_eq, Nat.shiftLeft_eq]
    exact Nat.mul_le_mul_right _ hle

/-- A positive number is rounded to a zero or to a `Positive` number. -/
theorem zero_or_positive_round (m : Nat) {e : Int} (h : e ≤ lastExponent m e) :
    (∃ s, (Float.Model.pack
        (roundWithAccuracy Format.binary64 .positive m e .exact)).unpack = .zero s) ∨
      Positive (Float.Model.pack
        (roundWithAccuracy Format.binary64 .positive m e .exact)).unpack := by
  have hleast : -1074 ≤ lastExponent m e := le_max_right _ _
  have hpack : ∀ {r : Nat} {t : Int} (hr : 0 < r), r < 2 ^ 53 → -1074 ≤ t →
      Positive (Float.Model.pack (.finite .positive r t hr)).unpack := by
    intro r t hr hlt ht
    rw [unpack_pack_finite .positive hr hlt ht]
    split_ifs
    · exact .infinity
    · exact .finite _ _ _
    · exact .finite _ _ _
  rw [roundWithAccuracy_eq]
  simp only [add_dropped h]
  split_ifs
  · exact .inl ⟨.positive, rfl⟩
  · exact .inr (hpack _ ‹_› hleast)
  · exact .inr (hpack _ (by decide) (by omega))

end Binary64

open Binary64

/-- Finite nonnegative numbers are zeros, or they are positive and `Canonical`. -/
theorem float_finite_cases {v : Float} (h : 0 ≤ v) (hfinite : v.isFinite = true) :
    (∃ s, v.toModel.unpack = .zero s) ∨
      ∃ m e hm, v.toModel.unpack = .finite .positive m e hm ∧ Canonical m e := by
  refine ((float_nonneg_iff v).mp h).imp_right fun hpos => ?_
  rcases hpos.cases with hinfinite | ⟨m, e, hm, hv⟩
  · change v.toModel.unpack.isFinite = true at hfinite
    rw [hinfinite] at hfinite
    cases hfinite
  · exact ⟨m, e, hm, hv, canonical_of_unpack hv⟩

theorem isFinite_of_le {u v : Float} (hu : 0 ≤ u) (huv : u ≤ v)
    (hv : v.isFinite = true) : u.isFinite = true := by
  change u.toModel.unpack.isFinite = true
  have hrank := ((float_le_iff_rank u v).mp huv).2.2
  rcases (float_nonneg_iff u).mp hu with ⟨s, hs⟩ | hpos
  · rw [hs]
    rfl
  · rcases hpos.cases with hinfinite | ⟨m, e, hm, hfinite⟩
    · -- nothing that is finite is as large as infinity
      rw [hinfinite] at hrank
      rcases float_finite_cases (LawfulOrder.trans hu huv) hv with ⟨s, hs⟩
        | ⟨m, e, hm, hmodel, -⟩
      · rw [hs] at hrank
        simp [rank, Prod.Lex.toLex_le_toLex] at hrank
      · rw [hmodel] at hrank
        simp [rank, Prod.Lex.toLex_le_toLex] at hrank
    · rw [hfinite]
      rfl

theorem unpack_mul (u v : Float) : (u * v).toModel.unpack =
    (Float.Model.pack (UnpackedFloat.mul Format.binary64 u.toModel.unpack
      v.toModel.unpack)).unpack := rfl

theorem float_mul_comm (u v : Float) : u * v = v * u :=
  congrArg (fun a => Float.ofModel (Float.Model.pack a)) (Binary64.mul_comm _ _)

theorem unpack_mul_finite {u v : Float} {m m' : Nat} {e e' : Int} {hm : 0 < m}
    {hm' : 0 < m'} (hu : u.toModel.unpack = .finite .positive m e hm)
    (hv : v.toModel.unpack = .finite .positive m' e' hm') :
    (u * v).toModel.unpack =
      (Float.Model.pack (roundWithAccuracy Format.binary64 .positive (m * m') (e + e')
        .exact)).unpack := by
  rw [unpack_mul, hu, hv]
  rfl

theorem isZero_mul {u v : Float} (hu : IsZero u) (hv : 0 ≤ v)
    (hfinite : v.isFinite = true) : IsZero (u * v) := by
  obtain ⟨s, hu⟩ := (float_isZero_iff u).mp hu
  rw [float_isZero_iff, unpack_mul, hu]
  rcases float_finite_cases hv hfinite with ⟨t, hv⟩ | ⟨m, e, hm, hv, -⟩
  · rw [hv]
    exact ⟨_, unpack_pack_zero _⟩
  · rw [hv]
    exact ⟨_, unpack_pack_zero _⟩

theorem float_mul_nonneg {u v : Float} (hu : 0 ≤ u) (hu' : u.isFinite = true)
    (hv : 0 ≤ v) (hv' : v.isFinite = true) :
    0 ≤ u * v := by
  by_cases hzero : IsZero u
  · exact (isZero_mul hzero hv hv').1
  by_cases hzero' : IsZero v
  · rw [float_mul_comm]
    exact (isZero_mul hzero' hu hu').1
  rw [float_isZero_iff] at hzero hzero'
  obtain ⟨m, e, hm, hu, hc⟩ := (float_finite_cases hu hu').resolve_left hzero
  obtain ⟨m', e', hm', hv, hc'⟩ := (float_finite_cases hv hv').resolve_left hzero'
  rw [float_nonneg_iff, unpack_mul_finite hu hv]
  exact zero_or_positive_round _ (le_lastExponent_mul hm hc hm' hc')

theorem le_of_isZero {u v : Float} (hu : IsZero u) (hv : 0 ≤ v) : u ≤ v := by
  obtain ⟨hzero, hdefined⟩ := LawfulOrder.defined_of_le hu.1
  exact LawfulOrder.trans (LawfulOrder.le_of_not_lt hzero hdefined hu.2) hv

/-- **Products are monotone**: `u ≤ v` gives `u * s ≤ v * s`, as long as all
three are finite and nonnegative. -/
theorem float_mul_le_mul {u v s : Float} (hu : 0 ≤ u) (huv : u ≤ v)
    (hv : v.isFinite = true) (hs : 0 ≤ s) (hs' : s.isFinite = true) : u * s ≤ v * s := by
  have hv₀ : 0 ≤ v := LawfulOrder.trans hu huv
  have hu' := isFinite_of_le hu huv hv
  have hproduct := float_mul_nonneg hv₀ hv hs hs'
  by_cases hzero : IsZero u
  · exact le_of_isZero (isZero_mul hzero hs hs') hproduct
  by_cases hzero' : IsZero s
  · rw [float_mul_comm u]
    exact le_of_isZero (isZero_mul hzero' hu hu') hproduct
  have hpos : ¬ IsZero v :=
    fun hv => hzero ⟨hu, fun hlt => hv.2 (LawfulOrder.lt_of_lt_of_le hlt huv)⟩
  rw [float_isZero_iff] at hzero hzero' hpos
  obtain ⟨m, e, hm, humodel, hc⟩ := (float_finite_cases hu hu').resolve_left hzero
  obtain ⟨m', e', hm', hvmodel, hc'⟩ := (float_finite_cases hv₀ hv).resolve_left hpos
  obtain ⟨n, k, hn, hsmodel, hcs⟩ := (float_finite_cases hs hs').resolve_left hzero'
  -- at a common exponent the products of the mantissas are ordered, and
  -- rounding keeps the order
  have hrank := ((float_le_iff_rank u v).mp huv).2.2
  rw [humodel, hvmodel] at hrank
  have hle := shiftLeft_le_of_rank_le hc hc' hrank
  rw [float_le_iff_rank, unpack_mul_finite humodel hsmodel,
    unpack_mul_finite hvmodel hsmodel]
  refine ⟨(LawfulOrder.defined_of_le (float_mul_nonneg hu hu' hs hs')).2,
    (LawfulOrder.defined_of_le hproduct).2, ?_⟩
  refine rank_rounded_mono (Nat.mul_pos hm hn) (le_lastExponent_mul hm hc hn hcs)
    (le_lastExponent_mul hm' hc' hn hcs) ?_
  have hleft : (e + k - min (e + k) (e' + k)).toNat = (e - min e e').toNat := by omega
  have hright : (e' + k - min (e + k) (e' + k)).toNat = (e' - min e e').toNat := by omega
  rw [hleft, hright, Nat.shiftLeft_eq, Nat.shiftLeft_eq, Nat.mul_right_comm,
    Nat.mul_right_comm m', ← Nat.shiftLeft_eq, ← Nat.shiftLeft_eq]
  exact Nat.mul_le_mul_right n hle

/-- `1 * s ≤ s`: multiplying by one rounds nothing. -/
theorem float_one_mul_le {s : Float} (hs : 0 ≤ s)
    (hs' : s.isFinite = true) : 1 * s ≤ s := by
  by_cases hzero : IsZero s
  · rw [float_mul_comm]
    exact le_of_isZero (isZero_mul hzero (by decide) (by decide)) hs
  rw [float_isZero_iff] at hzero
  obtain ⟨n, k, hn, hsmodel, hc⟩ := (float_finite_cases hs hs').resolve_left hzero
  have hone : (1 : Float).toModel.unpack =
      .finite .positive (2 ^ 52) (-52) (by decide) := rfl
  obtain ⟨hk, hround⟩ := hc.round hn
  rw [float_le_iff_rank, unpack_mul_finite hone hsmodel, hsmodel, ← hround]
  refine ⟨(LawfulOrder.defined_of_le (float_mul_nonneg (by decide) (by decide) hs hs')).2,
    (LawfulOrder.defined_of_le hs).2, ?_⟩
  refine rank_rounded_mono (Nat.mul_pos (by decide) hn)
    (le_lastExponent_mul (by decide) (canonical_of_unpack hone) hn hc) hk ?_
  rw [min_eq_left (by omega)]
  have hleft : (-52 + k - (-52 + k)).toNat = 0 := by omega
  have hright : (k - (-52 + k)).toNat = 52 := by omega
  rw [hleft, hright, Nat.shiftLeft_zero, Nat.shiftLeft_eq, Nat.mul_comm]

/-- `u * s ≤ s` for `u ≤ 1`. -/
theorem float_mul_le_right {u s : Float} (hu : 0 ≤ u) (hu' : u ≤ 1) (hs : 0 ≤ s)
    (hs' : s.isFinite = true) :
    u * s ≤ s :=
  LawfulOrder.trans (float_mul_le_mul hu hu' (by decide) hs hs') (float_one_mul_le hs hs')

/-! ## Patterns -/

namespace Binary64

/-- A pattern as a natural number: `sign * 2 ^ 63 + ex * 2 ^ 52 + man`. -/
theorem toNat_packComponents_sign (s : Sign) (ex : BitVec 11) (man : BitVec 52) :
    (packComponents Format.binary64 s ex man).toNat =
      s.toBitVec.toNat * 2 ^ 63 + ex.toNat * 2 ^ 52 + man.toNat := by
  change (s.toBitVec ++ ex ++ man : BitVec (1 + 11 + 52)).toNat = _
  rw [BitVec.toNat_append, BitVec.toNat_append, ← Nat.shiftLeft_add_eq_or_of_lt ex.isLt,
    ← Nat.shiftLeft_add_eq_or_of_lt man.isLt, Nat.shiftLeft_eq, Nat.shiftLeft_eq]
  ring

/-- `toNat_packComponents_sign` for the positive sign. -/
theorem toNat_packComponents (ex : BitVec 11) (man : BitVec 52) :
    (packComponents Format.binary64 .positive ex man).toNat =
      ex.toNat * 2 ^ 52 + man.toNat := by
  rw [toNat_packComponents_sign]
  show 0 * 2 ^ 63 + ex.toNat * 2 ^ 52 + man.toNat = _
  rw [Nat.zero_mul, Nat.zero_add]

theorem toBitVec_eq_packComponents {w : UInt64} (h : w.toNat < 2 ^ 63) :
    w.toBitVec = packComponents Format.binary64 .positive
      (BitVec.ofNat 11 (w.toNat / 2 ^ 52)) (BitVec.ofNat 52 (w.toNat % 2 ^ 52)) := by
  refine BitVec.eq_of_toNat_eq (.trans ?_ (toNat_packComponents _ _).symm)
  rw [BitVec.toNat_ofNat, BitVec.toNat_ofNat]
  change w.toNat = _
  omega

/-- A pattern below `2047 * 2 ^ 52` stands for zero, or for a positive
`Canonical` number whose mantissa and exponent are read off it as a natural
number. -/
theorem unpack_pattern {w : UInt64} (hlt : w.toNat < 2047 * 2 ^ 52) :
    (w.toNat = 0 ∧ UnpackedFloat.unpack Format.binary64 w.toBitVec = .zero .positive) ∨
    ∃ m e hm, UnpackedFloat.unpack Format.binary64 w.toBitVec =
        .finite .positive m e hm ∧ Canonical m e ∧
      (w.toNat = m ∧ e = -1074 ∨ w.toNat + 2 ^ 52 = (e + 1075).toNat * 2 ^ 52 + m ∧
        2 ^ 52 ≤ m ∧ -1074 ≤ e) := by
  have hbits := toBitVec_eq_packComponents (show w.toNat < 2 ^ 63 by omega)
  have hex : (BitVec.ofNat 11 (w.toNat / 2 ^ 52)).toNat = w.toNat / 2 ^ 52 := by
    rw [BitVec.toNat_ofNat]
    omega
  have hman : (BitVec.ofNat 52 (w.toNat % 2 ^ 52)).toNat = w.toNat % 2 ^ 52 := by
    rw [BitVec.toNat_ofNat]
    omega
  generalize BitVec.ofNat 11 (w.toNat / 2 ^ 52) = ex at hbits hex
  generalize BitVec.ofNat 52 (w.toNat % 2 ^ 52) = man at hbits hman
  have hne : ex ≠ -1#11 := by
    rintro rfl
    have hlargest : (-1#11).toNat = 2047 := rfl
    omega
  rw [hbits, unpack_packComponents .positive man hne]
  -- zero, subnormal numbers and normal numbers
  split_ifs with hleast hzero
  · rw [hleast, BitVec.toNat_zero] at hex
    rw [hzero, BitVec.toNat_zero] at hman
    exact .inl ⟨by omega, rfl⟩
  · rw [hleast, BitVec.toNat_zero] at hex
    have hpos : 0 < man.toNat :=
      Nat.pos_of_ne_zero fun h => hzero (BitVec.eq_of_toNat_eq h)
    exact .inr ⟨_, _, hpos, rfl, ⟨by omega, le_rfl, by decide, .inr rfl⟩,
      .inl ⟨by omega, rfl⟩⟩
  · have hpos : ex.toNat ≠ 0 := fun h => hleast (BitVec.eq_of_toNat_eq h)
    exact .inr ⟨_, _, Nat.add_pos_left (Nat.two_pow_pos 52) _, rfl,
      ⟨by omega, by omega, by omega, .inl (by omega)⟩,
        .inr ⟨by omega, by omega, by omega⟩⟩

/-- **Patterns are ordered as the numbers they stand for**, among finite numbers
that are not negative. -/
theorem rank_pattern_lt {w w' : UInt64} (h : w.toNat < w'.toNat)
    (h' : w'.toNat < 2047 * 2 ^ 52) :
    rank (UnpackedFloat.unpack Format.binary64 w.toBitVec) <
      rank (UnpackedFloat.unpack Format.binary64 w'.toBitVec) := by
  rcases unpack_pattern h' with ⟨hzero, -⟩ | ⟨m', e', hm', hw', hc', hpattern'⟩
  · omega
  · rw [hw']
    rcases unpack_pattern (h.trans h') with ⟨-, hw⟩ | ⟨m, e, hm, hw, hc, hpattern⟩
    · rw [hw]
      simp [rank, Prod.Lex.toLex_lt_toLex]
    · rw [hw]
      have hlt := hc.lt
      have hlt' := hc'.lt
      simp only [rank, Prod.Lex.toLex_lt_toLex, lt_irrefl, false_or,
        true_and, Nat.cast_lt]
      omega

/-- The patterns of positive finite numbers lie strictly between `0` and
`2047 * 2 ^ 52`. -/
theorem pattern_of_positive {v : Float} {m : Nat} {e : Int} {hm : 0 < m}
    (hv : v.toModel.unpack = .finite .positive m e hm) : 0 < v.toBits.toNat ∧
    v.toBits.toNat < 2047 * 2 ^ 52 := by
  obtain ⟨ex, man, hlargest, hbits⟩ := exists_packComponents hv
  have hnat : v.toBits.toNat = ex.toNat * 2 ^ 52 + man.toNat :=
    (congrArg BitVec.toNat hbits).trans (toNat_packComponents ex man)
  have hex := ex.isLt
  have hman := man.isLt
  have hne : ex.toNat ≠ 2047 := fun h => hlargest (BitVec.eq_of_toNat_eq h)
  have hlt : v.toBits.toNat < 2047 * 2 ^ 52 := by omega
  refine ⟨Nat.pos_of_ne_zero fun hzero => ?_, hlt⟩
  change UnpackedFloat.unpack Format.binary64 v.toBits.toBitVec = _ at hv
  rcases unpack_pattern hlt with ⟨-, hw⟩ | ⟨m', e', hm', hw, -, hpattern⟩
  · cases hw.symm.trans hv
  · omega

theorem unpack_ofBits {w : UInt64} (hlt : w.toNat < 2047 * 2 ^ 52) :
    (Float.ofBits w).toModel.unpack =
      UnpackedFloat.unpack Format.binary64 w.toBitVec := by
  change (Float.Model.pack (UnpackedFloat.unpack Format.binary64 w.toBitVec)).unpack = _
  rcases unpack_pattern hlt with ⟨-, hw⟩ | ⟨m, e, hm, hw, hc, -⟩
  · rw [hw]
    rfl
  · rw [hw, hc.unpack_pack hm]

end Binary64

/-- **The number before a positive one**, `Float.ofBits (v.toBits - 1)`, is
smaller and not negative. -/
theorem float_pred {v : Float} (hv : 0 < v) (hfinite : v.isFinite = true) :
    0 ≤ Float.ofBits (v.toBits - 1) ∧ Float.ofBits (v.toBits - 1) < v := by
  have hv₀ := (LawfulOrder.lt_iff.mp hv).1
  have hzero : ¬ ∃ s, v.toModel.unpack = .zero s := by
    rw [← float_isZero_iff]
    exact fun h => h.2 hv
  obtain ⟨m, e, hm, hmodel, -⟩ := (float_finite_cases hv₀ hfinite).resolve_left hzero
  obtain ⟨hpos, hlt⟩ := pattern_of_positive hmodel
  have hnat : (v.toBits - 1).toNat = v.toBits.toNat - 1 := UInt64.toNat_sub_of_le _ _ hpos
  have hrank := rank_pattern_lt (show (v.toBits - 1).toNat < v.toBits.toNat by omega) hlt
  have hunpack := unpack_ofBits (show (v.toBits - 1).toNat < 2047 * 2 ^ 52 by omega)
  have hnonneg : 0 ≤ Float.ofBits (v.toBits - 1) := by
    rw [float_nonneg_iff, hunpack]
    rcases unpack_pattern (show (v.toBits - 1).toNat < 2047 * 2 ^ 52 by omega)
      with ⟨-, hw⟩ | ⟨m, e, hm, hw, -⟩
    · exact .inl ⟨_, hw⟩
    · rw [hw]
      exact .inr (.finite _ _ _)
  refine ⟨hnonneg, ?_⟩
  rw [float_lt_iff_rank, hunpack]
  exact ⟨(LawfulOrder.defined_of_le hnonneg).2, (LawfulOrder.defined_of_le hv₀).2, hrank⟩

/-! ## Numbers below a total -/

namespace Random

/-- `1 - 2^-52`, the largest number that `Generator.unit` yields. -/
def largestUnit : Float := 1.0 - 2.220446049250313e-16

theorem unit_le_largestUnit (w : UInt64) :
    (w >>> 12).toFloat / 4503599627370496.0 ≤ largestUnit := by
  have hlargest : largestUnit.toModel.unpack =
      .finite .positive (2 ^ 53 - 2) (-53) (by decide) := rfl
  rw [float_le_iff_rank, hlargest]
  refine ⟨(LawfulOrder.defined_of_le (unit_bounds w).1).2, by decide, ?_⟩
  rcases unpack_unit w with hzero | ⟨n, hn, hlt, hmodel⟩
  · rw [hzero]
    simp [rank, Prod.Lex.toLex_le_toLex]
  · have hpos : 0 < n := Nat.shiftLeft_pos_iff.mp hn
    have hlog : n.log2 < 52 := (Nat.log2_lt hpos.ne').mpr hlt
    rw [hmodel]
    simp only [rank, Prod.Lex.toLex_le_toLex, lt_irrefl, false_or, true_and]
    by_cases hfull : n.log2 = 51
    · right
      rw [hfull, Nat.shiftLeft_eq]
      omega
    · left
      omega

/-- The factor of `scaleBelow` is `total` itself, if `largestUnit` does not
reach the total with it, or else a smaller number. -/
theorem scaleBelow_cases {total : Float} (hpos : 0 < total)
    (hfinite : total.isFinite = true) :
    (scaleBelow total 8 total = total ∧ ¬ total ≤ total * largestUnit) ∨
    (0 ≤ scaleBelow total 8 total ∧ scaleBelow total 8 total < total) := by
  by_cases hreached : total ≤ total * largestUnit
  · right
    obtain ⟨hnonneg, hlt⟩ := float_pred hpos hfinite
    have hle := (LawfulOrder.lt_iff.mp hlt).1
    have hfinite' := isFinite_of_le hnonneg hle hfinite
    have hpred : ¬ total ≤ Float.ofBits (total.toBits - 1) * largestUnit := by
      intro h
      rw [float_mul_comm] at h
      have hproduct := float_mul_le_right (show 0 ≤ largestUnit by decide)
        (by decide) hnonneg hfinite'
      exact (LawfulOrder.lt_iff.mp hlt).2 (LawfulOrder.trans h hproduct)
    have hscale : scaleBelow total 8 total = Float.ofBits (total.toBits - 1) := by
      rw [scaleBelow]
      exact (if_pos hreached).trans (if_neg hpred)
    rw [hscale]
    exact ⟨hnonneg, hlt⟩
  · left
    exact ⟨if_neg hreached, hreached⟩

end Random

/-- The promise of `RandomSource.below`: for a positive finite `total`, the draw
lies in `[0, total)`. -/
def DrawsBelow (γ α : Type) [Zero α] [LT α] [LE α] [Scalar α] [RandomSource γ α] : Prop :=
  ∀ (total : α) (g : γ), 0 < total → Scalar.isFinite total = true →
    0 ≤ (RandomSource.below total g : α × γ).1 ∧
    (RandomSource.below total g : α × γ).1 < total

/-- **The generator draws below totals**, however the product of factor and
uniform number is rounded. -/
theorem drawsBelow_generator : DrawsBelow Random.Generator Float := by
  intro total g hpos hfinite
  change 0 ≤ (g.next.1 >>> 12).toFloat / 4503599627370496.0 *
      Random.scaleBelow total 8 total ∧
    (g.next.1 >>> 12).toFloat / 4503599627370496.0 *
      Random.scaleBelow total 8 total < total
  obtain ⟨hu, hone⟩ := unit_bounds g.next.1
  have hle := Random.unit_le_largestUnit g.next.1
  generalize (g.next.1 >>> 12).toFloat / 4503599627370496.0 = u at hu hone hle
  have hone := (LawfulOrder.lt_iff.mp hone).1
  have hu' := isFinite_of_le hu hone (by decide)
  have htotal := (LawfulOrder.lt_iff.mp hpos).1
  -- the total is the scale if the largest uniform number stays below it, and
  -- otherwise the scale is below the total
  rcases Random.scaleBelow_cases hpos hfinite with ⟨hscale, hreached⟩ | ⟨hscale, hlt⟩
  · rw [hscale]
    refine ⟨float_mul_nonneg hu hu' htotal hfinite,
      LawfulOrder.lt_iff.mpr ⟨?_, fun h => hreached ?_⟩⟩
    · exact float_mul_le_right hu hone htotal hfinite
    · rw [float_mul_comm total]
      exact LawfulOrder.trans h (float_mul_le_mul hu hle (by decide) htotal hfinite)
  · have hscale' := isFinite_of_le hscale (LawfulOrder.lt_iff.mp hlt).1 hfinite
    exact ⟨float_mul_nonneg hu hu' hscale hscale',
      LawfulOrder.lt_of_le_of_lt (float_mul_le_right hu hone hscale hscale') hlt⟩

end ReachMixture
