import ReachMixture.NumberText
import ReachMixture.Proofs.Decimal.Reading
import ReachMixture.Proofs.Decimal.Scientific

/-!
# Numbers read back

Every finite floating-point number is read back from its text, whatever the
layout that it was written in. So different numbers have different texts, the
two zeros among them.

- `ofFloat_of_isFinite`: what is written about a number is what its bit pattern
  stands for.
- `exists_read_finite`: the digits of a value are read as a number in the
  interval around it.
- `read_write`: **numbers read back**.
- `write_injective`: their texts tell them apart.
-/

namespace ReachMixture

open Float.Model Float.Model.UnpackedFloat

namespace Decimal

open Binary64

/-! ## The parts of a number -/

/-- The `Sign` of a number, negative if there is a minus in front. -/
def signOf (negative : Bool) : Sign := if negative then .negative else .positive

theorem exists_signOf (s : Sign) : ∃ negative, signOf negative = s := by
  cases s with
  | negative => exact ⟨true, rfl⟩
  | positive => exact ⟨false, rfl⟩

theorem toNat_signOf (negative : Bool) : (signOf negative).toBitVec.toNat =
    negative.toNat := by
  cases negative <;> rfl

/-- `Parts.ofBits` picks the fields of a pattern that is given as a natural
number. -/
theorem ofBits_of_toNat {bits : UInt64} {negative : Bool} {ex man : ℕ} (hex : ex < 2047)
    (hman : man < 2 ^ 52) (h : bits.toNat = negative.toNat * 2 ^ 63 + ex * 2 ^ 52 + man) :
    Parts.ofBits bits =
      if ex = 0 then .finite negative ⟨man, -1074, false⟩
      else .finite negative ⟨2 ^ 52 + man, ex - 1075, man == 0 && 1 < ex⟩ := by
  have hsign := Bool.toNat_lt negative
  -- the three fields of the pattern, as digits of `bits.toNat` in base two
  have hnegative : (bits >>> 63 == 1) = negative := by
    have hshift : (bits >>> 63).toNat = negative.toNat := by
      rw [UInt64.toNat_shiftRight]
      show bits.toNat >>> 63 = _
      rw [Nat.shiftRight_eq_div_pow]
      omega
    rw [Bool.eq_iff_iff, beq_iff_eq, ← UInt64.toNat_inj, hshift]
    exact Bool.toNat_eq_one
  have hexponent : ((bits >>> 52) &&& 0x7FF).toNat = ex := by
    rw [UInt64.toNat_and, UInt64.toNat_shiftRight]
    show bits.toNat >>> 52 &&& (2 ^ 11 - 1) = _
    rw [Nat.and_two_pow_sub_one_eq_mod, Nat.shiftRight_eq_div_pow]
    omega
  have hfraction : (bits &&& 0xFFFFFFFFFFFFF).toNat = man := by
    rw [UInt64.toNat_and]
    show bits.toNat &&& (2 ^ 52 - 1) = _
    rw [Nat.and_two_pow_sub_one_eq_mod]
    omega
  rw [Parts.ofBits, hnegative, hexponent, hfraction]
  exact if_neg hex.ne

/-- A mantissa below `2 ^ 52` is `Proper` at the exponent `-1074`. -/
theorem proper_of_least {man : ℕ} (hpos : 0 < man) (hman : man < 2 ^ 52) :
    Proper ⟨man, -1074, false⟩ where
  pos := hpos
  canonical := ⟨by dsimp only; omega, le_rfl, by norm_num, .inr rfl⟩
  narrow := by simp

theorem proper_of_full {ex man : ℕ} (hpos : ex ≠ 0) (hex : ex < 2047)
    (hman : man < 2 ^ 52) :
    Proper ⟨2 ^ 52 + man, ex - 1075, man == 0 && 1 < ex⟩ where
  pos := by positivity
  canonical := ⟨by dsimp only; omega, by dsimp only; omega, by dsimp only; omega,
    .inl (Nat.le_add_right _ _)⟩
  narrow := by
    rw [Bool.and_eq_true, beq_iff_eq, decide_eq_true_iff]
    dsimp only
    omega

/-- **What is written about a number** is what its bit pattern stands for:
`Parts.ofFloat` agrees with the unpacked form. -/
theorem ofFloat_of_isFinite {x : Float} (h : x.isFinite = true) :
    ∃ negative b, Parts.ofFloat x = .finite negative b ∧
      (b.significand = 0 ∧ x.toModel.unpack = .zero (signOf negative) ∨
        ∃ hb : Proper b, x.toModel.unpack =
          .finite (signOf negative) b.significand b.exponent hb.pos) := by
  obtain ⟨s, ex, man, hlargest, hbits⟩ := exists_pattern h
  obtain ⟨negative, rfl⟩ := exists_signOf s
  have hnat : x.toBits.toNat =
      negative.toNat * 2 ^ 63 + ex.toNat * 2 ^ 52 + man.toNat := by
    rw [← toNat_signOf]
    exact (congrArg BitVec.toNat hbits).trans (toNat_packComponents_sign _ ex man)
  have hex : ex.toNat < 2047 :=
    lt_of_le_of_ne (Nat.le_of_lt_succ ex.isLt) fun hnat =>
      hlargest (BitVec.eq_of_toNat_eq hnat)
  have hunpack : x.toModel.unpack = _ :=
    (congrArg (UnpackedFloat.unpack Format.binary64) hbits).trans
      (unpack_packComponents _ man hlargest)
  rw [hunpack, Parts.ofFloat, ofBits_of_toNat hex man.isLt hnat]
  -- the least exponent field is that of zeros and subnormal numbers
  by_cases hleast : ex = 0#11
  · rw [if_pos hleast, if_pos (by rw [hleast]; rfl)]
    refine ⟨negative, _, rfl, ?_⟩
    by_cases hzero : man = 0#52
    · left
      rw [dif_pos hzero, hzero]
      exact ⟨rfl, rfl⟩
    · right
      have hpos : 0 < man.toNat :=
        Nat.pos_of_ne_zero fun hnat => hzero (BitVec.eq_of_toNat_eq hnat)
      rw [dif_neg hzero]
      exact ⟨proper_of_least hpos man.isLt, rfl⟩
  · have hpos : ex.toNat ≠ 0 := fun hnat => hleast (BitVec.eq_of_toNat_eq hnat)
    rw [if_neg hleast, if_neg hpos]
    exact ⟨negative, _, rfl, .inr ⟨proper_of_full hpos hex man.isLt, rfl⟩⟩

/-! ## Digits of a value -/

theorem ten_pow_le_of_pos {n : ℕ} (hn : 0 < n) : 10 ^ ((digitText n).length - 1) ≤ n := by
  by_contra hlt
  rcases Nat.eq_zero_or_pos ((digitText n).length - 1) with hzero | hpos
  · rw [hzero, pow_zero] at hlt
    omega
  · have hle := (Nat.length_toDigits_le_iff (by decide) hpos).mpr (not_le.mp hlt)
    change (digitText n).length ≤ (digitText n).length - 1 at hle
    omega

/-- The exponent of the leading digit of a number in range is below `65536`,
where `exponentValue` is exact. -/
theorem natAbs_leading_lt {d : Numeral} (hdigits : 0 < d.digits)
    (hexponent : -1074 ≤ d.exponent) (h : d.value < 2 ^ (1024 : ℤ)) :
    (d.exponent + ((digitText d.digits).length : ℤ) - 1).natAbs < 65536 := by
  have hlength : 0 < (digitText d.digits).length :=
    List.length_pos_iff.mpr (digitText_ne_nil _)
  by_contra hlarge
  have hten : (10 : ℚ) ^ (((digitText d.digits).length - 1 : ℕ) : ℤ) ≤ d.digits := by
    rw [zpow_natCast]
    exact_mod_cast ten_pow_le_of_pos hdigits
  refine absurd h (not_lt.mpr ?_)
  calc (2 : ℚ) ^ (1024 : ℤ) ≤
    2 ^ (3 * (((digitText d.digits).length - 1 : ℕ) + d.exponent)) :=
        zpow_le_zpow_right₀ (by norm_num) (by omega)
    _ ≤ 10 ^ (((digitText d.digits).length - 1 : ℕ) + d.exponent) :=
      (ten_zpow_bounds (by omega)).1
    _ = 10 ^ (((digitText d.digits).length - 1 : ℕ) : ℤ) * 10 ^ d.exponent :=
      zpow_add₀ (by norm_num) _ _
    _ ≤ d.value := mul_le_mul_of_nonneg_right hten (by positivity)

/-- **The digits of a value are read** as its `shortest` decimal, in every
layout. -/
theorem exists_read_finite (l : Layout) {b : Binary} (hb : Proper b) :
    ∃ (D : ℕ) (E : ℤ), Size.read? (l.finite b) = some (.finite D E) ∧
        (D : ℚ) * 10 ^ E = (b.shortest l.tie).value ∧
      -2000 ≤ E := by
  have hrange := hb.range (Binary.covers_shortest hb.pos.ne' l.tie)
  have hexponent := Binary.le_exponent_shortest hb.canonical.least_le l.tie
  rw [Layout.finite]
  generalize b.shortest l.tie = d at hrange hexponent
  have hdigits : 0 < d.digits := by
    refine Nat.pos_of_ne_zero fun hzero => absurd hrange.1 (not_le.mpr ?_)
    rw [Numeral.value, hzero, Nat.cast_zero, zero_mul]
    positivity
  split
  · obtain ⟨D, E, hread, hvalue, hE⟩ := exists_read_positional l d.digits d.exponent
    exact ⟨D, E, hread, hvalue, by omega⟩
  · rw [read_exponential d.digits (natAbs_leading_lt hdigits hexponent hrange.2)]
    refine ⟨_, _, rfl, ?_, ?_⟩
    · rw [Numeral.value]
      congr 2
      ring
    · omega

theorem unpack_read_finite (l : Layout) {b : Binary} (hb : Proper b) :
    ∃ size, Size.read? (l.finite b) = some size ∧
      size.toFloat.toModel.unpack =
        .finite .positive b.significand b.exponent hb.pos := by
  obtain ⟨D, E, hread, hvalue, hE⟩ := exists_read_finite l hb
  refine ⟨_, hread, unpack_nearest hb hE ?_⟩
  rw [hvalue]
  exact Binary.covers_shortest hb.pos.ne' l.tie

theorem unpack_read_zero (l : Layout) {b : Binary} (hb : b.significand = 0) :
    ∃ size, Size.read? (l.finite b) = some size ∧
      size.toFloat.toModel.unpack = .zero .positive := by
  have htext : l.finite b = l.positional (digitText 0) 0 := by
    rw [Layout.finite, Binary.shortest, if_pos hb, hb]
    rfl
  obtain ⟨D, E, hread, hvalue, -⟩ := exists_read_positional l 0 0
  have hD : D = 0 := by
    rw [Nat.cast_zero, zero_mul, mul_eq_zero] at hvalue
    exact_mod_cast hvalue.resolve_right (by positivity)
  have hnearest : nearest 0 E = 0.0 := by
    rw [nearest, decide_eq_true rfl, Bool.true_or, if_pos rfl]
  refine ⟨_, htext ▸ hread, ?_⟩
  rw [hD, Size.toFloat, hnearest]
  rfl

/-! ## Signs -/

theorem read_sign {c : Char} (hc : c = '-' ∨ c = '+') (rest : List Char) :
    Size.read? (c :: rest) = none := by
  have hword : ∀ word : String, word.toList.head? ≠ some c.toLower →
      String.ofList ((c :: rest).map Char.toLower) ≠ word := by
    rintro word hhead rfl
    rw [String.toList_ofList] at hhead
    exact hhead rfl
  have hsplit : splitPoint (c :: rest) = ([], [], c :: rest) := by
    rcases hc with rfl | rfl <;> rfl
  rw [Size.read?, hsplit]
  dsimp only
  rw [if_neg, if_neg]
  · rfl
  · exact hword "nan" (by rcases hc with rfl | rfl <;> decide)
  · rintro (hinf | hinf)
    · exact hword "inf" (by rcases hc with rfl | rfl <;> decide) hinf
    · exact hword "infinity" (by rcases hc with rfl | rfl <;> decide) hinf

/-- A text that `Size.read?` accepts has no sign in front. -/
theorem splitSign_of_read {text : List Char} {size : Size}
    (h : Size.read? text = some size) :
    splitSign text = (false, text) := by
  unfold splitSign
  split
  · cases (read_sign (.inl rfl) _).symm.trans h
  · cases (read_sign (.inr rfl) _).symm.trans h
  · rfl

theorem read_signed (negative : Bool) {text : List Char} {size : Size}
    (h : Size.read? text = some size) :
    Literal.read? (signed negative text) = some ⟨negative, size⟩ := by
  have hsign : splitSign (signed negative text) = (negative, text) := by
    cases negative with
    | true => rfl
    | false => exact splitSign_of_read h
  rw [Literal.read?, hsign]
  dsimp only
  rw [h, Option.map_some]

/-! ## Numbers -/

theorem ofModel_pack_unpack (x : Float) :
    Float.ofModel (Float.Model.pack x.toModel.unpack) = x := by
  obtain ⟨⟨bits, valid⟩⟩ := x
  have hbits : UnpackedFloat.pack Format.binary64
      (UnpackedFloat.unpack Format.binary64 bits.toBitVec) =
      bits.toBitVec := pack_unpack_of_valid valid
  simp only [Float.Model.pack, Float.Model.unpack, hbits]

/-- `Literal.toFloat` is `x` if the sign and the size agree with the unpacked
form of `x`. -/
theorem toFloat_eq {x : Float} {negative : Bool} {size : Size}
    (h : x.toModel.unpack =
      if negative then size.toFloat.toModel.unpack.neg else size.toFloat.toModel.unpack) :
    Literal.toFloat ⟨negative, size⟩ = x := by
  rw [← ofModel_pack_unpack x, h, Literal.toFloat]
  cases negative with
  | true => rfl
  | false => exact (ofModel_pack_unpack _).symm

/-- **Numbers read back**: in every layout, `Literal.read?` undoes `write` on
finite numbers, signs of zeros included. -/
theorem read_write (l : Layout) {x : Float} (hx : x.isFinite = true) :
    (Literal.read? (l.write x).toList).map Literal.toFloat = some x := by
  obtain ⟨negative, b, hparts, hcases⟩ := ofFloat_of_isFinite hx
  have htext : (l.write x).toList = signed negative (l.finite b) := by
    rw [Layout.write, textOf, hparts]
    exact String.toList_ofList
  rw [htext]
  rcases hcases with ⟨hzero, hunpack⟩ | ⟨hb, hunpack⟩
  · obtain ⟨size, hread, hsize⟩ := unpack_read_zero l hzero
    rw [read_signed negative hread, Option.map_some, toFloat_eq]
    rw [hunpack, hsize]
    cases negative <;> rfl
  · obtain ⟨size, hread, hsize⟩ := unpack_read_finite l hb
    rw [read_signed negative hread, Option.map_some, toFloat_eq]
    rw [hunpack, hsize]
    cases negative <;> rfl

/-- `write` is injective on finite numbers. -/
theorem write_injective (l : Layout) {x y : Float} (hx : x.isFinite = true)
    (hy : y.isFinite = true) (h : l.write x = l.write y) : x = y := by
  have hread := read_write l hx
  rw [h, read_write l hy] at hread
  exact (Option.some.inj hread).symm

end Decimal

end ReachMixture
