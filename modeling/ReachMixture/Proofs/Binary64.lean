import ReachMixture.Decimal.Rounding
import ReachMixture.Proofs.Arithmetic

/-!
# Sums of floating-point numbers

Floating-point sums are rounded, so a sum of many small numbers need not be
close to the exact one. It need not grow beyond bounds either: once it is so
large that a further term falls below half of its last digit, it stays where it
is. Here this is read off the bit patterns, for the weights that a fit starts
with.

- `Represents`: what a mantissa with its two bits stands for, however often it
  has been shifted.
- `Decimal.roundDiv_mono`, `rounded_eq`: rounding is rounded division, and that
  is monotone.
- `roundWithAccuracy_eq`, `unpack_pack_finite`, `add_finite`: rounding, packing
  and adding, each in one formula.
- `UpTo`: nonnegative numbers of bounded size. `UpTo.add` says that small terms
  do not lead out of the bound.
- `AtLeastOne`: numbers from one on, among them all positive natural numbers
  (`atLeastOne_ofNat`).
- `isFinite_shares`, `ones_pos`: equal shares of one have a finite sum, and ones
  have a positive sum.
-/

namespace ReachMixture

/-! ## Rounded quotients -/

namespace Decimal

theorem roundDiv_eq (n d : Nat) : roundDiv n d =
    if 2 * (n % d) < d then n / d
    else if d < 2 * (n % d) then n / d + 1
    else if n / d % 2 = 0 then n / d
    else n / d + 1 := rfl

theorem roundDiv_bounds (n d : Nat) : n / d ≤ roundDiv n d ∧
    roundDiv n d ≤ n / d + 1 := by
  rw [roundDiv_eq]
  split_ifs <;> omega

/-- `roundDiv n d` exceeds `n / d` by at most one half. -/
theorem two_mul_roundDiv_le (n d : Nat) : d * (2 * roundDiv n d) ≤ 2 * n + d := by
  have hdiv := Nat.div_add_mod n d
  have hdown : d * (2 * (n / d)) = 2 * (d * (n / d)) := by ring
  have hup : d * (2 * (n / d + 1)) = 2 * (d * (n / d)) + 2 * d := by ring
  rw [roundDiv_eq]
  split_ifs <;> omega

theorem roundDiv_of_dvd {n d : Nat} (hd : 0 < d) (h : d ∣ n) : roundDiv n d = n / d := by
  rw [roundDiv_eq, Nat.mod_eq_zero_of_dvd h, if_pos hd]

/-- `roundDiv` is monotone in its numerator. -/
theorem roundDiv_mono {n n' : Nat} (d : Nat) (h : n ≤ n') :
    roundDiv n d ≤ roundDiv n' d := by
  rcases (Nat.div_le_div_right (c := d) h).lt_or_eq with hlt | heq
  · exact (roundDiv_bounds n d).2.trans (hlt.trans_le (roundDiv_bounds n' d).1)
  · -- between the same two numbers it is the remainders that decide
    have hmod : n % d ≤ n' % d := by
      have hdiv := Nat.div_add_mod n d
      have hdiv' := Nat.div_add_mod n' d
      rw [heq] at hdiv
      omega
    rw [roundDiv_eq, roundDiv_eq, heq]
    split_ifs <;> omega

theorem roundDiv_mul_right (n d : Nat) {k : Nat} (hk : 0 < k) :
    roundDiv (n * k) (d * k) = roundDiv n d := by
  have hless : ∀ a b : Nat, a * k < b * k ↔ a < b := fun a b => Nat.mul_lt_mul_right hk
  rw [roundDiv_eq, roundDiv_eq, Nat.mul_div_mul_right _ _ hk,
    Nat.mul_mod_mul_right, ← Nat.mul_assoc]
  simp only [hless]

end Decimal

open Float.Model Float.Model.UnpackedFloat

namespace Binary64

open Decimal

/-! ## Rounding -/

/-- How many digits of `m * 2 ^ e` are dropped by rounding. -/
def dropped (m : Nat) (e : Int) : Nat := (max (m.log2 + e - 52) (-1074) - e).toNat

/-- The mantissa that is left when the `dropped` digits have been rounded. -/
def rounded (m : Nat) (e : Int) (a : Accuracy) : Nat :=
  (ExtendedMantissa.ofMantissaAndAccuracy m a >>> dropped m e).roundedMantissa

theorem targetExponent_eq (m : Nat) (e : Int) :
    Format.binary64.targetExponent (totalExponent m e) =
      max (m.log2 + e - 52) (-1074) := by
  simp only [Format.targetExponent, totalExponent,
    Format.mantissaBits, Format.minExponent]
  omega

theorem shiftToTargetExponent_eq (m : Nat) (e : Int) (a : Accuracy) :
    shiftToTargetExponent Format.binary64 m e a =
      (ExtendedMantissa.ofMantissaAndAccuracy m a >>> dropped m e, e + dropped m e) := by
  rw [shiftToTargetExponent, targetExponent_eq]
  rfl

theorem mantissa_ofMantissaAndAccuracy (m : Nat) (a : Accuracy) :
    (ExtendedMantissa.ofMantissaAndAccuracy m a).mantissa = m := by
  cases a with
  | exact => rfl
  | inexact o => cases o <;> rfl

theorem shiftRight_succ (em : ExtendedMantissa) (n : Nat) :
    em >>> (n + 1) = (em >>> n).shiftRightOne := rfl

theorem mantissa_shiftRight (em : ExtendedMantissa) (n : Nat) :
    (em >>> n).mantissa = em.mantissa / 2 ^ n := by
  induction n with
  | zero => exact (Nat.div_one _).symm
  | succ n ih =>
    rw [shiftRight_succ, ExtendedMantissa.shiftRightOne, ih,
      Nat.div_div_eq_div_mul, Nat.pow_succ]

theorem roundedMantissa_bounds (em : ExtendedMantissa) :
    em.mantissa ≤ em.roundedMantissa ∧
    em.roundedMantissa ≤ em.mantissa + em.roundBit.toNat := by
  obtain ⟨m, r, s⟩ := em
  cases r <;> cases s <;>
    simp [ExtendedMantissa.roundedMantissa, ExtendedMantissa.accuracy,
      Accuracy.roundToNearestEven]
  omega

theorem log2_shiftLeft {m : Nat} (hm : 0 < m) (i : Nat) :
    (m <<< i).log2 = m.log2 + i := by
  rw [Nat.shiftLeft_eq, Nat.log2_eq_iff (Nat.mul_pos hm (Nat.two_pow_pos i)).ne',
    Nat.add_right_comm, Nat.pow_add, Nat.pow_add]
  exact ⟨Nat.mul_le_mul_right _ (Nat.log2_self_le hm.ne'),
    Nat.mul_lt_mul_of_pos_right Nat.lt_log2_self (Nat.two_pow_pos i)⟩

/-- `dropped` is zero for mantissas below `2 ^ 53` at exponents from `-1074` on. -/
theorem dropped_eq_zero {m : Nat} {e : Int} (hm : m < 2 ^ 53) (he : -1074 ≤ e) :
    dropped m e = 0 := by
  have hlog : m.log2 < 53 := by
    rcases Nat.eq_zero_or_pos m with rfl | hpos
    · decide
    · exact (Nat.log2_lt hpos.ne').mpr hm
  unfold dropped
  omega

/-- At most 53 digits are left before rounding. -/
theorem div_dropped_lt (m : Nat) (e : Int) : m / 2 ^ dropped m e < 2 ^ 53 := by
  have hlog : m.log2 + 1 ≤ 53 + dropped m e := by
    unfold dropped
    omega
  rw [Nat.div_lt_iff_lt_mul (Nat.two_pow_pos _), ← Nat.pow_add]
  exact Nat.lt_log2_self.trans_le (Nat.pow_le_pow_right (by decide) hlog)

theorem rounded_bounds (m : Nat) (e : Int) (a : Accuracy) :
    m / 2 ^ dropped m e ≤ rounded m e a ∧ rounded m e a ≤ m / 2 ^ dropped m e + 1 := by
  obtain ⟨hle, hge⟩ := roundedMantissa_bounds
    (ExtendedMantissa.ofMantissaAndAccuracy m a >>> dropped m e)
  rw [mantissa_shiftRight, mantissa_ofMantissaAndAccuracy] at hle hge
  exact ⟨hle, hge.trans (Nat.add_le_add_left (Bool.toNat_le _) _)⟩

/-- The extended mantissa `em` stands for `num / den`: its round bit tells
whether the half behind the mantissa is part of the quotient, and its sticky bit
whether there is a `rest`. -/
def Represents (em : ExtendedMantissa) (num den : Nat) : Prop :=
  ∃ rest < den, 2 * num = den * (2 * em.mantissa + em.roundBit.toNat) + rest ∧
    (em.stickyBit = true ↔ rest ≠ 0)

theorem represents_exact (m : Nat) :
    Represents (ExtendedMantissa.ofMantissaAndAccuracy m .exact) m 1 := by
  refine ⟨0, Nat.one_pos, ?_, ?_⟩ <;> simp [ExtendedMantissa.ofMantissaAndAccuracy]

theorem represents_fraction (num : Nat) {den : Nat} (hden : 0 < den) :
    Represents (ExtendedMantissa.ofMantissaAndAccuracy (num / den)
      (accuracyOfFraction (num % den) den)) num den := by
  have hdiv := Nat.div_add_mod num den
  have hmod := Nat.mod_lt num hden
  have hdown : den * (2 * (num / den)) = 2 * (den * (num / den)) := by ring
  have hup : den * (2 * (num / den) + 1) = 2 * (den * (num / den)) + den := by ring
  rw [accuracyOfFraction]
  by_cases hzero : num % den = 0
  · rw [if_pos hzero]
    refine ⟨0, hden, ?_, by simp [ExtendedMantissa.ofMantissaAndAccuracy]⟩
    show 2 * num = den * (2 * (num / den)) + 0
    omega
  · rw [if_neg hzero]
    -- the first digit dropped is one iff the remainder is at least `den / 2`
    cases hcompare : compare (2 * (num % den)) den with
    | lt =>
      have hlt := Nat.compare_eq_lt.mp hcompare
      refine ⟨2 * (num % den), hlt, ?_,
        by simp [ExtendedMantissa.ofMantissaAndAccuracy, hzero]⟩
      show 2 * num = den * (2 * (num / den)) + 2 * (num % den)
      omega
    | eq =>
      have heq := Nat.compare_eq_eq.mp hcompare
      refine ⟨0, hden, ?_, by simp [ExtendedMantissa.ofMantissaAndAccuracy]⟩
      show 2 * num = den * (2 * (num / den) + 1) + 0
      omega
    | gt =>
      have hgt := Nat.compare_eq_gt.mp hcompare
      refine ⟨2 * (num % den) - den, by omega, ?_, ?_⟩
      · show 2 * num = den * (2 * (num / den) + 1) + (2 * (num % den) - den)
        omega
      · simp only [ExtendedMantissa.ofMantissaAndAccuracy, true_iff]
        omega

namespace Represents

variable {em : ExtendedMantissa} {num den : Nat}

theorem shiftRightOne (h : Represents em num den) :
    Represents em.shiftRightOne num (den * 2) := by
  obtain ⟨rest, hrest, hnum, hsticky⟩ := h
  have hsplit : 2 * em.shiftRightOne.mantissa + em.shiftRightOne.roundBit.toNat =
      em.mantissa := by
    rcases Nat.mod_two_eq_zero_or_one em.mantissa with hmod | hmod <;>
      simp [ExtendedMantissa.shiftRightOne, hmod] <;> omega
  refine ⟨den * em.roundBit.toNat + rest, ?_, ?_, ?_⟩
  · have hbit := Nat.mul_le_mul_left den (Bool.toNat_le em.roundBit)
    omega
  · rw [hsplit, hnum]
    ring
  · rw [ExtendedMantissa.shiftRightOne, Bool.or_eq_true, hsticky]
    have hden : den ≠ 0 := Nat.ne_zero_of_lt hrest
    cases em.roundBit <;> simp [hden]

theorem shiftRight (h : Represents em num den) (n : Nat) :
    Represents (em >>> n) num (den * 2 ^ n) := by
  induction n with
  | zero => rwa [pow_zero, Nat.mul_one]
  | succ n ih =>
    rw [shiftRight_succ, Nat.pow_succ, ← Nat.mul_assoc]
    exact ih.shiftRightOne

theorem mantissa_eq (h : Represents em num den) : em.mantissa = num / den := by
  obtain ⟨rest, hrest, hnum, -⟩ := h
  have hbit := Nat.mul_le_mul_left den (Bool.toNat_le em.roundBit)
  have hexpand : den * (2 * em.mantissa + em.roundBit.toNat) =
      2 * (den * em.mantissa) + den * em.roundBit.toNat := by
    ring
  refine (Nat.div_eq_of_lt_le ?_ ?_).symm
  · rw [Nat.mul_comm]
    omega
  · rw [Nat.succ_mul, Nat.mul_comm]
    omega

/-- **The two bits are all that rounding needs**: `roundedMantissa` of what
represents `num / den` is `roundDiv num den`. -/
theorem roundedMantissa_eq (h : Represents em num den) :
    em.roundedMantissa = roundDiv num den := by
  have hmantissa := h.mantissa_eq
  obtain ⟨rest, hrest, hnum, hsticky⟩ := h
  have hdiv := Nat.div_add_mod num den
  rw [roundDiv_eq]
  obtain ⟨q, bit, sticky⟩ := em
  subst hmantissa
  have hremainder : 2 * (num % den) = den * bit.toNat + rest := by
    have hexpand : den * (2 * (num / den) + bit.toNat) =
        2 * (den * (num / den)) + den * bit.toNat := by ring
    dsimp only at hnum
    omega
  rw [hremainder]
  -- the bit and the sticky bit say on which side of a half the remainder is
  cases bit with
  | false =>
    rw [if_pos (by simpa using hrest)]
    cases sticky <;> rfl
  | true =>
    simp only [Bool.toNat_true, Nat.mul_one]
    cases sticky with
    | false =>
      obtain rfl : rest = 0 := by simpa using hsticky
      simp only [ExtendedMantissa.roundedMantissa, ExtendedMantissa.accuracy,
        Accuracy.roundToNearestEven, add_zero, lt_irrefl, if_false]
      split <;> omega
    | true =>
      have hne : rest ≠ 0 := hsticky.mp rfl
      rw [if_neg (by omega), if_pos (by omega)]
      rfl

end Represents

/-- **Dropped digits are rounded** to the nearest mantissa, halves to even. -/
theorem rounded_eq (m : Nat) (e : Int) : rounded m e .exact =
    roundDiv m (2 ^ dropped m e) := by
  have h := ((represents_exact m).shiftRight (dropped m e)).roundedMantissa_eq
  rwa [Nat.one_mul] at h

/-- `rounded_eq` for a quotient `num / den` whose remainder is only known
through `accuracyOfFraction`. -/
theorem rounded_fraction (num : Nat) {den : Nat} (hden : 0 < den) (e : Int) :
    rounded (num / den) e (accuracyOfFraction (num % den) den) =
      roundDiv num (den * 2 ^ dropped (num / den) e) :=
  ((represents_fraction num hden).shiftRight _).roundedMantissa_eq

/-- `rounded` of an exact number is larger by at most one half of the last kept
digit. -/
theorem two_mul_rounded_le (m : Nat) (e : Int) :
    2 ^ dropped m e * (2 * rounded m e .exact) ≤ 2 * m + 2 ^ dropped m e := by
  rw [rounded_eq]
  exact two_mul_roundDiv_le _ _

/-- `rounded` is a division if only zeros are dropped. -/
theorem rounded_exact {m : Nat} {e : Int} (h : 2 ^ dropped m e ∣ m) :
    rounded m e .exact = m / 2 ^ dropped m e := by
  rw [rounded_eq, roundDiv_of_dvd (Nat.two_pow_pos _) h]

/-- **Rounding in one formula.** `rounded` decides the result; a mantissa that
reaches `2 ^ 53` by being rounded up is halved once more. -/
theorem roundWithAccuracy_eq (s : Sign) (m : Nat) (e : Int) (a : Accuracy) :
    roundWithAccuracy Format.binary64 s m e a =
      if h : rounded m e a = 0 then .zero s
      else if rounded m e a < 2 ^ 53 then
        .finite s (rounded m e a) (e + dropped m e) (Nat.pos_of_ne_zero h)
      else .finite s (2 ^ 52) (e + dropped m e + 1) (by decide) := by
  have hexp : -1074 ≤ e + dropped m e := by
    unfold dropped
    omega
  have hle : rounded m e a ≤ 2 ^ 53 :=
    (rounded_bounds m e a).2.trans (Nat.succ_le_of_lt (div_dropped_lt m e))
  simp only [roundWithAccuracy, shiftToTargetExponent_eq, mantissa_shiftRight,
    mantissa_ofMantissaAndAccuracy]
  change (if h : rounded m e a / 2 ^ dropped (rounded m e a) (e + dropped m e) = 0
    then UnpackedFloat.zero s
    else .finite s (rounded m e a / 2 ^ dropped (rounded m e a) (e + dropped m e))
      (e + dropped m e + dropped (rounded m e a) (e + dropped m e))
      (Nat.pos_of_ne_zero h)) = _
  -- the second rounding drops nothing, or a single zero of `2 ^ 53`
  by_cases hlt : rounded m e a < 2 ^ 53
  · have hzero := dropped_eq_zero hlt hexp
    simp only [hzero, if_pos hlt, pow_zero, Nat.div_one, Nat.cast_zero, add_zero]
  · have hrounded : rounded m e a = 2 ^ 53 := le_antisymm hle (not_lt.mp hlt)
    have hone : dropped (rounded m e a) (e + dropped m e) = 1 := by
      have hlog : (rounded m e a).log2 = 53 := hrounded ▸ Nat.log2_two_pow
      unfold dropped at hexp ⊢
      omega
    simp only [hone]
    simp only [hrounded]
    norm_num

/-- A mantissa below `2 ^ 53` at an exponent from `-1074` on is rounded to
itself. -/
theorem roundWithAccuracy_exact {m : Nat} {e : Int} (hpos : 0 < m)
    (hm : m < 2 ^ 53) (he : -1074 ≤ e) :
    roundWithAccuracy Format.binary64 .positive m e .exact =
      .finite .positive m e hpos := by
  have hdropped := dropped_eq_zero hm he
  have hrounded : rounded m e .exact = m := by
    rw [rounded_exact (by simp [hdropped]), hdropped, pow_zero, Nat.div_one]
  rw [roundWithAccuracy_eq, dif_neg (by omega), if_pos (by omega)]
  simp [hrounded, hdropped]

/-! ## Bit patterns -/

/-- What a pattern stands for whose exponent field is not all ones: a zero, a
subnormal mantissa `man`, or the normal one `2 ^ 52 + man`. -/
theorem unpack_packComponents (s : Sign) {ex : BitVec 11} (man : BitVec 52)
    (hex : ex ≠ -1#11) :
    UnpackedFloat.unpack Format.binary64 (packComponents Format.binary64 s ex man) =
      if ex = 0#11 then
        if h : man = 0#52 then .zero s
        else .finite s man.toNat (-1074)
          (by simpa [BitVec.toNat_pos, BitVec.pos_iff_ne_zero])
      else .finite s (2 ^ 52 + man.toNat) (ex.toNat - 1075) (by positivity) := by
  have happend : (1#1 ++ man).toNat = 2 ^ 52 + man.toNat := by
    rw [BitVec.toNat_append, ← Nat.shiftLeft_add_eq_or_of_lt man.isLt]
    simp [Nat.shiftLeft_eq]
  have hbias : Format.binary64.exponentBias = 1023 := rfl
  simp only [UnpackedFloat.unpack, unpackMantissa_packComponents,
    unpackExponent_packComponents, unpackSign_packComponents, Sign.ofBitVec_toBitVec,
    happend, hbias, if_neg hex]
  by_cases hzero : ex = 0#11
  · simp [hzero]
  · simp [hzero]

theorem unpack_packedInfinity (s : Sign) :
    UnpackedFloat.unpack Format.binary64 (packedInfinity Format.binary64 s) =
      .infinity s := by
  cases s <;> rfl

/-- **Packing in one formula.** A number in range comes back as it was, up to
the exponent of subnormals, and one with `971 < e` is infinite. -/
theorem unpack_pack_finite (s : Sign) {m : Nat} {e : Int} (hpos : 0 < m)
    (hm : m < 2 ^ 53) (he : -1074 ≤ e) :
    (Float.Model.pack (.finite s m e hpos)).unpack =
      if 971 < e then .infinity s
      else .finite s m (if 2 ^ 52 ≤ m then e else -1074) hpos := by
  change UnpackedFloat.unpack Format.binary64
    (UnpackedFloat.pack Format.binary64 (.finite s m e hpos)) = _
  have hbias : Format.binary64.exponentBias = 1023 := rfl
  have hbits : Format.binary64.mantissaBits = 53 := rfl
  have hlog := Nat.log2_lt hpos.ne' (k := 53)
  have hlog' := Nat.le_log2 hpos.ne' (k := 52)
  simp only [UnpackedFloat.pack, hbias, hbits]
  -- the largest finite numbers have the exponent `971`; below `2 ^ 52` a
  -- mantissa is subnormal, and its exponent `-1074`
  by_cases hlarge : 971 < e
  · rw [if_pos (by omega), if_pos hlarge, unpack_packedInfinity]
  · rw [if_neg (by omega), if_neg hlarge]
    by_cases hnormal : 2 ^ 52 ≤ m
    · have hex : (BitVec.ofNat 11 (e + (1023 : Nat) + (52 : Nat)).toNat).toNat =
          (e + 1075).toNat := by
        rw [BitVec.toNat_ofNat]
        omega
      have hman : 2 ^ 52 + (BitVec.ofNat 52 m).toNat = m := by
        rw [BitVec.toNat_ofNat]
        omega
      rw [if_pos (by omega), if_pos hnormal]
      generalize BitVec.ofNat 11 (e + (1023 : Nat) + (52 : Nat)).toNat = ex at hex
      have hne : ∀ w : BitVec 11, w.toNat ≠ (e + 1075).toNat →
          ex ≠ w := fun w hw heq => hw (heq ▸ hex)
      have hlargest : (-1#11).toNat = 2047 := rfl
      have hsmallest : (0#11).toNat = 0 := rfl
      rw [unpack_packComponents _ _ (hne _ (by omega)), if_neg (hne _ (by omega))]
      congr 1
      omega
    · have hman : (BitVec.ofNat 52 m).toNat = m := by
        rw [BitVec.toNat_ofNat]
        omega
      have hne : BitVec.ofNat 52 m ≠ 0#52 := by
        intro heq
        rw [heq, BitVec.toNat_zero] at hman
        omega
      rw [if_neg (by omega), if_neg hnormal, unpack_packComponents _ _ (by decide),
        if_pos rfl, dif_neg hne]
      congr 1

/-- `UnpackedFloat.add` of positive numbers is the exact sum, aligned at the
smaller exponent, rounded once. -/
theorem add_finite {m m' : Nat} {e e' : Int} (h : 0 < m) (h' : 0 < m') :
    UnpackedFloat.add Format.binary64 (.finite .positive m e h)
        (.finite .positive m' e' h') =
      UnpackedFloat.round Format.binary64 .positive
        (m <<< (e - min e e').toNat + m' <<< (e' - min e e').toNat) (min e e') := by
  simp only [UnpackedFloat.add, decreaseExponent, Sign.apply]
  generalize min e e' = least
  have hpos : 0 < m <<< (e - least).toNat + m' <<< (e' - least).toNat :=
    Nat.add_pos_left (Nat.shiftLeft_pos_iff.mpr h) _
  have hcompare : compare ((m <<< (e - least).toNat : Nat) +
      (m' <<< (e' - least).toNat : Nat) : Int) 0 = .gt :=
    Int.compare_eq_gt.mpr (by exact_mod_cast hpos)
  simp only [UnpackedFloat.normalize, hcompare]
  rw [← Nat.cast_add, Int.toNat_natCast]

/-! ## Numbers of bounded size -/

/-- Nonnegative and of exponent at most `E`, hence at most
`(2 ^ 53 - 1) * 2 ^ E`. -/
inductive UpTo (E : Int) : UnpackedFloat → Prop where
  | zero (s : Sign) : UpTo E (.zero s)
  | finite (m : Nat) (e : Int) (hpos : 0 < m) (hm : m < 2 ^ 53)
    (hlow : -1074 ≤ e) (he : e ≤ E) :
      UpTo E (.finite .positive m e hpos)

variable {E : Int} {a b : UnpackedFloat}

theorem UpTo.isFinite (h : UpTo E a) : a.isFinite = true := by
  cases h <;> rfl

theorem UpTo.mono (h : UpTo E a) {E' : Int} (hE : E ≤ E') : UpTo E' a := by
  cases h with
  | zero s => exact .zero s
  | finite m e hpos hm hlow he => exact .finite m e hpos hm hlow (he.trans hE)

/-- A rounded number has the exponent at which its digits were dropped, or the
next one if it was rounded up to `2 ^ 53`. -/
theorem upTo_roundWithAccuracy {m : Nat} {e : Int} {acc : Accuracy}
    (he : e + dropped m e ≤ E) (hr : e + dropped m e < E ∨ rounded m e acc < 2 ^ 53) :
    UpTo E (roundWithAccuracy Format.binary64 .positive m e acc) := by
  have hlow : -1074 ≤ e + dropped m e := by
    unfold dropped
    omega
  rw [roundWithAccuracy_eq]
  split_ifs with hzero hlt
  · exact .zero _
  · exact .finite _ _ _ hlt hlow he
  · have hexp := hr.resolve_right hlt
    exact .finite _ _ _ (by decide) (by omega) (by omega)

/-- `UnpackedFloat.round` does not pass the bound `UpTo E` from below the
midpoint between the largest number of exponent `E` and the next one. -/
theorem upTo_round {m : Nat} {e : Int} (hm : 0 < m) (he : e ≤ E) (hE : -1074 ≤ E)
    (hlt : 2 * m < (2 ^ 54 - 1) * 2 ^ (E - e).toNat) :
    UpTo E (UnpackedFloat.round Format.binary64 .positive m e) := by
  have hlog : m.log2 < 53 + (E - e).toNat := by
    rw [Nat.log2_lt hm.ne', Nat.pow_add]
    omega
  simp only [UnpackedFloat.round, targetExponent_eq, decreaseExponent]
  generalize hi : (e - max ((m.log2 : Int) + e - 52) (-1074)).toNat = i
  have hexp : e - i + dropped (m <<< i) (e - i) =
      max ((m.log2 : Int) + e - 52) (-1074) := by
    unfold dropped
    rw [log2_shiftLeft hm]
    omega
  refine upTo_roundWithAccuracy (by omega) ?_
  by_cases hless : e - i + dropped (m <<< i) (e - i) < E
  · exact .inl hless
  · -- the digits are dropped at the exponent `E`, so none had to be added before
    right
    obtain rfl : i = 0 := by omega
    have hdropped : dropped m e = (E - e).toNat := by
      unfold dropped
      omega
    have hhalf := two_mul_rounded_le m e
    simp only [Nat.shiftLeft_zero, Nat.cast_zero, sub_zero]
    rw [hdropped] at hhalf
    by_contra hge
    have hmul : 2 ^ (E - e).toNat * 2 ^ 54 ≤
        2 ^ (E - e).toNat * (2 * rounded m e .exact) :=
      Nat.mul_le_mul_left _ (by omega)
    omega

/-- Packing keeps the bound `UpTo E`, and keeps the number finite if `E ≤ 971`. -/
theorem UpTo.unpack_pack (h : UpTo E a) (hlow : -1074 ≤ E) (hE : E ≤ 971) :
    UpTo E (Float.Model.pack a).unpack := by
  cases h with
  | zero s =>
    cases s <;> exact .zero _
  | finite m e hpos hm he he' =>
    rw [unpack_pack_finite .positive hpos hm he, if_neg (by omega)]
    split_ifs
    · exact .finite m e hpos hm he he'
    · exact .finite m _ hpos hm le_rfl hlow

/-- **Sums saturate.** Adding a number of exponent at most `E - 60` to one of
exponent at most `E` does not pass the bound `UpTo E`, however often it is done. -/
theorem UpTo.add (ha : UpTo E a) (hb : UpTo (E - 60) b) (hE : -1074 ≤ E) :
    UpTo E (UnpackedFloat.add Format.binary64 a b) := by
  cases ha with
  | zero s =>
    cases hb with
    | zero s' =>
      simp only [UnpackedFloat.add]
      split_ifs <;> exact .zero _
    | finite m e hpos hm hlow he => exact .finite m e hpos hm hlow (by omega)
  | finite m e hpos hm hlow he =>
    cases hb with
    | zero s' => exact .finite m e hpos hm hlow he
    | finite m' e' hpos' hm' hlow' he' =>
      rw [add_finite hpos hpos']
      generalize hleast : min e e' = least
      have hshifted : 0 < m <<< (e - least).toNat + m' <<< (e' - least).toNat :=
        Nat.add_pos_left (Nat.shiftLeft_pos_iff.mpr hpos) _
      refine upTo_round hshifted (by omega) hE ?_
      -- `b` is too small to lift the sum to the next exponent
      have hlarge : m <<< (e - least).toNat ≤ (2 ^ 53 - 1) * 2 ^ (E - least).toNat := by
        rw [Nat.shiftLeft_eq]
        exact Nat.mul_le_mul (by omega) (Nat.pow_le_pow_right (by decide) (by omega))
      have hsmall : m' <<< (e' - least).toNat * 2 ^ 60 ≤
          2 ^ 53 * 2 ^ (E - least).toNat := by
        rw [Nat.shiftLeft_eq, Nat.mul_assoc, ← Nat.pow_add]
        exact Nat.mul_le_mul hm'.le (Nat.pow_le_pow_right (by decide) (by omega))
      have hpow := Nat.two_pow_pos (E - least).toNat
      omega

/-! ## Shares of one -/

/-- `1` or more, as a case distinction on normal numbers of exponent `-52` or
more. -/
inductive AtLeastOne : UnpackedFloat → Prop where
  | infinity : AtLeastOne (.infinity .positive)
  | finite (m : Nat) (e : Int) (hpos : 0 < m) (hm : 2 ^ 52 ≤ m)
    (hm' : m < 2 ^ 53) (he : -52 ≤ e) :
      AtLeastOne (.finite .positive m e hpos)

/-- Rounding a number of at least 53 digits that is `1` or more gives one that
is `1` or more. -/
theorem atLeastOne_roundWithAccuracy {m : Nat} {e : Int} {acc : Accuracy}
    (hm : 2 ^ 52 ≤ m) (he : 0 ≤ m.log2 + e) :
    AtLeastOne (roundWithAccuracy Format.binary64 .positive m e acc) := by
  have hpos : m ≠ 0 := by omega
  have hlog : 52 ≤ m.log2 := (Nat.le_log2 hpos).mpr hm
  have hdropped : dropped m e = m.log2 - 52 := by
    unfold dropped
    omega
  have hle : 2 ^ 52 ≤ rounded m e acc := by
    refine le_trans ?_ (rounded_bounds m e acc).1
    rw [hdropped, Nat.le_div_iff_mul_le (Nat.two_pow_pos _), ← Nat.pow_add,
      Nat.add_sub_cancel' hlog]
    exact Nat.log2_self_le hpos
  rw [roundWithAccuracy_eq, dif_neg (by omega)]
  split_ifs with hlt
  · exact .finite _ _ _ hle hlt (by omega)
  · exact .finite _ _ _ le_rfl (by decide) (by omega)

theorem AtLeastOne.unpack_pack (h : AtLeastOne a) :
    AtLeastOne (Float.Model.pack a).unpack := by
  cases h with
  | infinity => exact .infinity
  | finite m e hpos hm hm' he =>
    rw [unpack_pack_finite .positive hpos hm' (by omega), if_pos hm]
    split_ifs
    · exact .infinity
    · exact .finite m e hpos hm hm' he

/-- `1 / a` is `UpTo 1` if `a` is `AtLeastOne`. -/
theorem AtLeastOne.share (h : AtLeastOne a) :
    UpTo 1 (UnpackedFloat.div Format.binary64
      (.finite .positive (2 ^ 52) (-52) (by decide)) a) := by
  cases h with
  | infinity => exact .zero _
  | finite m e hpos hm hm' he =>
    have hone : (2 ^ 52 : Nat).log2 = 52 := Nat.log2_two_pow
    simp only [UnpackedFloat.div, divCore]
    generalize Format.binary64.targetExponent _ = t
    generalize hq : (2 ^ 52) <<< _ / m = q
    -- a mantissa of `2 ^ 52` or more leaves no more digits than the shift has
    -- added
    have hlog : q.log2 ≤ (-52 - e - min (-52 - e) t).toNat := by
      have hle : q ≤ 2 ^ (-52 - e - min (-52 - e) t).toNat := by
        rw [← hq, Nat.shiftLeft_eq]
        exact Nat.div_le_of_le_mul (Nat.mul_le_mul_right _ hm)
      rcases Nat.eq_zero_or_pos q with rfl | hqpos
      · exact Nat.zero_le _
      · have hlt :=
          (Nat.log2_lt hqpos.ne' (k := (-52 - e - min (-52 - e) t).toNat + 1)).mpr
        rw [Nat.pow_succ] at hlt
        omega
    have hexp : min (-52 - e) t + dropped q (min (-52 - e) t) < 1 := by
      unfold dropped
      omega
    exact upTo_roundWithAccuracy hexp.le (.inl hexp)

theorem atLeastOne_round {n : Nat} {e : Int} (hn : 0 < n) (he : 0 ≤ n.log2 + e) :
    AtLeastOne (UnpackedFloat.round Format.binary64 .positive n e) := by
  simp only [UnpackedFloat.round, targetExponent_eq, decreaseExponent]
  generalize hi : (e - max ((n.log2 : Int) + e - 52) (-1074)).toNat = i
  have hlog := log2_shiftLeft hn i
  have hpos : n <<< i ≠ 0 := by
    rw [Nat.shiftLeft_eq]
    positivity
  refine atLeastOne_roundWithAccuracy ((Nat.le_log2 hpos).mp ?_) ?_
  · omega
  · omega

theorem AtLeastOne.mul_one (h : AtLeastOne a) :
    AtLeastOne (UnpackedFloat.mul Format.binary64 a
      (.finite .positive (2 ^ 52) (-52) (by decide))) := by
  cases h with
  | infinity => exact .infinity
  | finite m e hpos hm hm' he =>
    have hlog : 104 ≤ (m * 2 ^ 52).log2 := (Nat.le_log2 (by omega)).mpr (by omega)
    exact atLeastOne_roundWithAccuracy (by omega) (by omega)

/-- Sums of numbers that are `AtLeastOne` are so too. -/
theorem AtLeastOne.add (ha : AtLeastOne a) (hb : AtLeastOne b) :
    AtLeastOne (UnpackedFloat.add Format.binary64 a b) := by
  cases ha with
  | infinity => cases hb <;> exact .infinity
  | finite m e hpos hm hm' he =>
    cases hb with
    | infinity => exact .infinity
    | finite m₁ e₁ hpos₁ hm₁ hm₁' he₁ =>
      rw [add_finite hpos hpos₁]
      generalize hleast : min e e₁ = least
      have hsum : 2 ^ 52 ≤ m <<< (e - least).toNat + m₁ <<< (e₁ - least).toNat := by
        refine hm.trans (Nat.le_add_right_of_le ?_)
        rw [Nat.shiftLeft_eq]
        exact Nat.le_mul_of_pos_right m (Nat.two_pow_pos _)
      generalize m <<< (e - least).toNat = shifted at hsum
      generalize m₁ <<< (e₁ - least).toNat = shifted₁ at hsum
      have hpositive : 0 < shifted + shifted₁ := (Nat.two_pow_pos 52).trans_le hsum
      have hlog := (Nat.le_log2 hpositive.ne').mpr hsum
      exact atLeastOne_round hpositive (by omega)

theorem AtLeastOne.positive (h : AtLeastOne a) : Positive a := by
  cases h with
  | infinity => exact .infinity
  | finite m e hpos => exact .finite m e hpos

/-- **Natural numbers** from `1` on are converted to floats that are
`AtLeastOne`. -/
theorem atLeastOne_ofNat {n : Nat} (hn : 0 < n) :
    AtLeastOne (Float.ofNat n).toModel.unpack := by
  change AtLeastOne (Float.ofScientific n false 0).toModel.unpack
  unfold Float.ofScientific
  by_cases hsmall : n < 2 ^ 53
  · -- a small number is converted and then multiplied by one
    rw [dif_pos ⟨hsmall, by decide⟩]
    have hconverted : AtLeastOne n.toUInt64.toFloat.toModel.unpack := by
      have hword : n.toUInt64.toNat = n := by
        rw [Nat.toUInt64_eq, UInt64.toNat_ofNat']
        omega
      have hcompare : compare (n : Int) 0 = .gt :=
        Int.compare_eq_gt.mpr (by exact_mod_cast hn)
      change AtLeastOne (Float.Model.pack
        (UnpackedFloat.normalize Format.binary64 n.toUInt64.toNat 0 .positive)).unpack
      rw [hword]
      simp only [UnpackedFloat.normalize, hcompare, Int.toNat_natCast]
      exact (atLeastOne_round hn (by omega)).unpack_pack
    have hone : Float.exactlyRepresentablePowersOfTen[0].toModel.unpack =
        .finite .positive (2 ^ 52) (-52) (by decide) := rfl
    change AtLeastOne (Float.Model.pack
      (UnpackedFloat.mul Format.binary64 n.toUInt64.toFloat.toModel.unpack
      Float.exactlyRepresentablePowersOfTen[0].toModel.unpack)).unpack
    rw [hone]
    exact hconverted.mul_one.unpack_pack
  · rw [dif_neg (fun h => hsmall h.1)]
    change AtLeastOne
      (Float.Model.pack (UnpackedFloat.ofScientific Format.binary64 n 0)).unpack
    refine AtLeastOne.unpack_pack ?_
    have hexponent : Format.binary64.exponentBits = 11 := rfl
    have hbits : Format.binary64.mantissaBits = 53 := rfl
    have hlog := log2_shiftLeft hn 53
    have hpos : 2 ^ 52 ≤ n <<< 53 := by
      rw [Nat.shiftLeft_eq]
      omega
    simp only [UnpackedFloat.ofScientific, hbits, dif_neg hn.ne']
    rw [if_neg (by omega), if_neg (by omega), if_pos le_rfl]
    simp only [UnpackedFloat.mul, Int.toNat_zero, pow_zero, Nat.mul_one]
    exact atLeastOne_roundWithAccuracy hpos (by omega)

/-- Any number of shares `1 / n` has a finite sum. The shares are `UpTo 1`, so
the sum stays below the exponent at which one more share would count. -/
theorem isFinite_shares (n k : Nat) (hn : 0 < n) :
    ((List.replicate k (1 / Float.ofNat n)).foldl (· + ·)
      (1 / Float.ofNat n)).isFinite = true := by
  have hshare : UpTo 1 (1 / Float.ofNat n).toModel.unpack :=
    (atLeastOne_ofNat hn).share.unpack_pack (by decide) (by decide)
  have hsum : ∀ s : Float, UpTo 61 s.toModel.unpack →
      UpTo 61 ((List.replicate k (1 / Float.ofNat n)).foldl (· + ·)
        s).toModel.unpack := by
    induction k with
    | zero => exact fun s hs => hs
    | succ k ih =>
      intro s hs
      rw [List.replicate_succ, List.foldl_cons]
      exact ih _ ((hs.add hshare (by decide)).unpack_pack (by decide) (by decide))
  exact (hsum _ (hshare.mono (by decide))).isFinite

/-- Any positive number of ones has a positive sum. -/
theorem ones_pos (k : Nat) :
    0 < (List.replicate (k + 1) (1 : Float)).foldl (· + ·) 0 := by
  have hone : AtLeastOne (1 : Float).toModel.unpack := atLeastOne_ofNat Nat.one_pos
  have hsum : ∀ s : Float, AtLeastOne s.toModel.unpack →
      AtLeastOne ((List.replicate k (1 : Float)).foldl (· + ·) s).toModel.unpack := by
    induction k with
    | zero => exact fun s hs => hs
    | succ k ih => exact fun s hs => ih _ (hs.add hone).unpack_pack
  have hfirst : (0 + 1 : Float).toModel.unpack = (1 : Float).toModel.unpack := rfl
  rw [float_pos_iff, List.replicate_succ, List.foldl_cons]
  exact (hsum _ (hfirst ▸ hone)).positive

end Binary64

instance : LawfulWeights Float where
  nonneg_of_not_neg {v} hfinite hneg := by
    change v.toModel.unpack.isFinite = true at hfinite
    rw [float_lt_iff] at hneg
    rw [float_le_iff]
    change ¬ UnpackedFloat.compare _ (.zero .positive) = _ at hneg
    change Option.any _ (UnpackedFloat.compare (.zero .positive) _) = true
    cases hv : v.toModel.unpack with
    | notANumber => rw [hv] at hfinite; cases hfinite
    | infinity s => rw [hv] at hfinite; cases hfinite
    | zero s => rfl
    | finite s m e hpos =>
      rw [hv] at hneg
      cases s with
      | positive => rfl
      | negative => exact absurd rfl hneg
  isFinite_shares k := Binary64.isFinite_shares (k + 1) k (Nat.succ_pos k)

instance : LawfulStart Float where
  not_neg_of_nonneg {v} h := by
    rw [float_le_iff] at h
    rw [float_lt_iff]
    change Option.any _ (UnpackedFloat.compare (.zero .positive) _) = true at h
    change ¬ UnpackedFloat.compare _ (.zero .positive) = _
    cases hv : v.toModel.unpack with
    | notANumber => exact nofun
    | zero s => exact nofun
    | infinity s =>
      rw [hv] at h
      cases s with
      | positive => exact nofun
      | negative => cases h
    | finite s m e hpos =>
      rw [hv] at h
      cases s with
      | positive => exact nofun
      | negative => cases h
  isFinite_one := by decide
  share_pos := by decide
  ones_pos := Binary64.ones_pos

end ReachMixture
