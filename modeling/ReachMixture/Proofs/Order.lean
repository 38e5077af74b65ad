import ReachMixture.Proofs.Binary64

/-!
# The order of numbers

Comparisons of floating-point numbers form an order once the undefined ones are
left out. Sums respect it although they are rounded: the exact sum of numbers
that are not negative is not below either of them, and rounding does not lead
below a number that needs no rounding itself.

- `LawfulOrder`: comparisons that form an order on the defined numbers.
- `LawfulSums`: sums that respect it. `Float` satisfies both, as ordered monoids
  do.
- `Binary64.rank`, `Binary64.compare_eq`: where a floating-point number stands
  among all of them.
- `Binary64.rank_rounded_mono`: **rounding is monotone**.
- `Binary64.Canonical`, `Binary64.rank_le_round`: numbers that need no rounding,
  and that rounding does not pass them.
-/

namespace ReachMixture

/-- Comparisons that form an order on the defined numbers, those with `v ≤ v`. -/
class LawfulOrder (α : Type) [LT α] [LE α] : Prop where
  /-- Only defined numbers can be compared. -/
  defined_of_le : ∀ {u v : α}, u ≤ v → u ≤ u ∧ v ≤ v
  trans : ∀ {u v w : α}, u ≤ v → v ≤ w → u ≤ w
  total : ∀ {u v : α}, u ≤ u → v ≤ v → u ≤ v ∨ v ≤ u
  lt_iff : ∀ {u v : α}, u < v ↔ u ≤ v ∧ ¬ v ≤ u

namespace LawfulOrder

variable {α : Type} [LT α] [LE α] [LawfulOrder α] {u v w : α}

theorem le_of_not_lt (hu : u ≤ u) (hv : v ≤ v) (h : ¬ u < v) : v ≤ u := by
  by_contra hle
  exact h (lt_iff.mpr ⟨(total hu hv).resolve_right hle, hle⟩)

theorem lt_of_lt_of_le (huv : u < v) (hvw : v ≤ w) : u < w := by
  obtain ⟨hle, hnot⟩ := lt_iff.mp huv
  exact lt_iff.mpr ⟨trans hle hvw, fun hwu => hnot (trans hvw hwu)⟩

theorem lt_of_le_of_lt (huv : u ≤ v) (hvw : v < w) : u < w := by
  obtain ⟨hle, hnot⟩ := lt_iff.mp hvw
  exact lt_iff.mpr ⟨trans huv hle, fun hwu => hnot (trans hwu huv)⟩

end LawfulOrder

instance {α : Type} [LinearOrder α] : LawfulOrder α where
  defined_of_le _ := ⟨le_rfl, le_rfl⟩
  trans huv hvw := huv.trans hvw
  total _ _ := le_total _ _
  lt_iff := lt_iff_le_not_ge

/-- Sums that respect the order. Rounding may lose a term, but never in the
wrong direction. -/
class LawfulSums (α : Type) [Zero α] [Add α] [LT α] [LE α] :
    Prop extends LawfulOrder α where
  /-- To add what is not negative does not lead down. -/
  le_add_right : ∀ {u v : α}, 0 ≤ u → 0 ≤ v → u ≤ u + v
  le_add_left : ∀ {u v : α}, 0 ≤ u → 0 ≤ v → v ≤ u + v
  /-- To add a zero, of whatever sign, does not lead up. -/
  add_le_of_isZero : ∀ {u v : α}, u ≤ u → IsZero v → u + v ≤ u

instance {α : Type} [AddCommMonoid α] [LinearOrder α]
    [IsOrderedAddMonoid α] : LawfulSums α where
  le_add_right _ hv := le_add_of_nonneg_right hv
  le_add_left hu _ := le_add_of_nonneg_left hu
  add_le_of_isZero _ hv := add_le_of_nonpos_right (not_lt.mp hv.2)

/-! ## Floating-point numbers -/

open Float.Model Float.Model.UnpackedFloat

namespace Binary64

/-- Where a number stands among all numbers, as a lexicographic triple: its kind
first, then its exponent, then its mantissa. -/
def rank : UnpackedFloat → ℤ ×ₗ ℤ ×ₗ ℤ
  | .infinity .negative => toLex (-2, toLex (0, 0))
  | .finite .negative m e _ => toLex (-1, toLex (-e, -m))
  | .zero _ => toLex (0, toLex (0, 0))
  | .notANumber => toLex (0, toLex (0, 0))
  | .finite .positive m e _ => toLex (1, toLex (e, m))
  | .infinity .positive => toLex (2, toLex (0, 0))

theorem compare_natCast (m m' : ℕ) : compare (m : ℤ) (m' : ℤ) = compare m m' := by
  rw [← cmp_eq_compare, ← cmp_eq_compare, Nat.strictMono_cast.cmp_map_eq]

theorem compare_neg (i j : ℤ) : compare (-i) (-j) = (compare i j).swap := by
  have hanti : StrictAnti fun i : ℤ => -i := fun _ _ h => neg_lt_neg h
  rw [← cmp_eq_compare, ← cmp_eq_compare, cmp_swap]
  exact hanti.cmp_map_eq i j

/-- **Comparison in one formula.** Defined numbers are compared by their
`rank`s. -/
theorem compare_eq {a b : UnpackedFloat} (ha : a ≠ .notANumber) (hb : b ≠ .notANumber) :
    a.compare b = some (compare (rank a) (rank b)) := by
  cases a with
  | notANumber => exact absurd rfl ha
  | zero s =>
    cases b with
    | notANumber => exact absurd rfl hb
    | zero t => rfl
    | infinity t => cases t <;> rfl
    | finite t m e h => cases t <;> rfl
  | infinity s =>
    cases b with
    | notANumber => exact absurd rfl hb
    | zero t => cases s <;> rfl
    | infinity t => cases s <;> cases t <;> rfl
    | finite t m e h => cases s <;> cases t <;> rfl
  | finite s m e h =>
    cases b with
    | notANumber => exact absurd rfl hb
    | zero t => cases s <;> rfl
    | infinity t => cases s <;> cases t <;> rfl
    | finite t m' e' h' =>
      -- only numbers of one sign are compared by exponent and mantissa
      cases s with
      | negative =>
        cases t with
        | negative =>
          show some ((compare e e').then (compare m m')).swap =
            some ((compare (-e) (-e')).then (compare (-(m : ℤ)) (-(m' : ℤ))))
          rw [compare_neg, compare_neg, compare_natCast, Ordering.swap_then]
        | positive => rfl
      | positive =>
        cases t with
        | negative => rfl
        | positive =>
          show some ((compare e e').then (compare m m')) =
            some ((compare e e').then (compare (m : ℤ) (m' : ℤ)))
          rw [compare_natCast]

end Binary64

open Binary64

theorem float_le_iff_rank (u v : Float) :
    u ≤ v ↔ u ≤ u ∧ v ≤ v ∧ rank u.toModel.unpack ≤ rank v.toModel.unpack := by
  rw [float_le_iff, float_le_self_iff, float_le_self_iff]
  by_cases hu : u.toModel.unpack = .notANumber
  · simp [hu, UnpackedFloat.compare]
  · by_cases hv : v.toModel.unpack = .notANumber
    · simp [hv, compare_notANumber]
    · simp [hu, hv, compare_eq hu hv, Ordering.isLE_iff_ne_gt, compare_le_iff_le]

theorem float_lt_iff_rank (u v : Float) :
    u < v ↔ u ≤ u ∧ v ≤ v ∧ rank u.toModel.unpack < rank v.toModel.unpack := by
  rw [float_lt_iff, float_le_self_iff, float_le_self_iff]
  by_cases hu : u.toModel.unpack = .notANumber
  · simp [hu, UnpackedFloat.compare]
  · by_cases hv : v.toModel.unpack = .notANumber
    · simp [hv, compare_notANumber]
    · simp [hu, hv, compare_eq hu hv, compare_lt_iff_lt]

instance : LawfulOrder Float where
  defined_of_le {u v} h := by
    obtain ⟨hu, hv, -⟩ := (float_le_iff_rank u v).mp h
    exact ⟨hu, hv⟩
  trans {u v w} huv hvw := by
    obtain ⟨hu, -, huv⟩ := (float_le_iff_rank u v).mp huv
    obtain ⟨-, hw, hvw⟩ := (float_le_iff_rank v w).mp hvw
    exact (float_le_iff_rank u w).mpr ⟨hu, hw, huv.trans hvw⟩
  total {u v} hu hv := by
    rcases le_total (rank u.toModel.unpack) (rank v.toModel.unpack) with h | h
    · exact .inl ((float_le_iff_rank u v).mpr ⟨hu, hv, h⟩)
    · exact .inr ((float_le_iff_rank v u).mpr ⟨hv, hu, h⟩)
  lt_iff {u v} := by
    rw [float_lt_iff_rank, float_le_iff_rank u v, float_le_iff_rank v u, lt_iff_le_not_ge]
    tauto

theorem float_isNaN_eq_false_iff (v : Float) : v.isNaN = false ↔ v ≤ v := by
  rw [float_le_self_iff]
  change v.toModel.unpack.isNaN = false ↔ _
  cases v.toModel.unpack <;> simp [UnpackedFloat.isNaN]

/-! ## Sums -/

namespace Binary64

open Decimal

/-- What bit patterns stand for: mantissas of 53 digits, or fewer at the
exponent `-1074`. -/
structure Canonical (m : Nat) (e : Int) : Prop where
  lt : m < 2 ^ 53
  least_le : -1074 ≤ e
  le_largest : e ≤ 971
  full : 2 ^ 52 ≤ m ∨ e = -1074

/-- A finite number has a pattern whose exponent field is not all ones. -/
theorem exists_pattern {v : Float} (hv : v.toModel.unpack.isFinite = true) :
    ∃ (s : Sign) (ex : BitVec 11) (man : BitVec 52), ex ≠ -1#11 ∧
      v.toModel.toBits.toBitVec = packComponents Format.binary64 s ex man := by
  obtain ⟨s, ex, man, hbits⟩ : ∃ (s : Sign) (ex : BitVec 11) (man : BitVec 52),
      packComponents Format.binary64 s ex man = v.toModel.toBits.toBitVec :=
    ⟨_, _, _, packComponents_unpackSign_unpackExponent_unpackMantissa _⟩
  refine ⟨s, ex, man, fun hlargest => ?_, hbits.symm⟩
  change (UnpackedFloat.unpack Format.binary64 v.toModel.toBits.toBitVec).isFinite =
    true at hv
  rw [← hbits] at hv
  simp only [UnpackedFloat.unpack, unpackExponent_packComponents] at hv
  rw [if_pos hlargest] at hv
  split_ifs at hv <;> cases hv

/-- `exists_pattern` with the sign read off the unpacked form. -/
theorem exists_packComponents {v : Float} {s : Sign} {m : Nat} {e : Int} {h : 0 < m}
    (hv : v.toModel.unpack = .finite s m e h) :
    ∃ (ex : BitVec 11) (man : BitVec 52), ex ≠ -1#11 ∧
      v.toModel.toBits.toBitVec = packComponents Format.binary64 s ex man := by
  obtain ⟨s', ex, man, hlargest, hbits⟩ := exists_pattern (by rw [hv]; rfl)
  refine ⟨ex, man, hlargest, ?_⟩
  change UnpackedFloat.unpack Format.binary64 v.toModel.toBits.toBitVec = _ at hv
  rw [hbits, unpack_packComponents s' man hlargest] at hv
  rw [hbits]
  split_ifs at hv
  · injection hv with hs
    rw [hs]
  · injection hv with hs
    rw [hs]

theorem canonical_of_unpack {v : Float} {s : Sign} {m : Nat} {e : Int} {h : 0 < m}
    (hv : v.toModel.unpack = .finite s m e h) : Canonical m e := by
  obtain ⟨ex, man, hlargest, hbits⟩ := exists_packComponents hv
  have hman := man.isLt
  have hex := ex.isLt
  have hne : ex.toNat ≠ 2047 := fun hnat => hlargest (BitVec.eq_of_toNat_eq hnat)
  change UnpackedFloat.unpack Format.binary64 v.toModel.toBits.toBitVec = _ at hv
  rw [hbits, unpack_packComponents s man hlargest] at hv
  split_ifs at hv with hleast hzero
  · injection hv with _ hm he
    exact ⟨by omega, by omega, by omega, .inr he.symm⟩
  · injection hv with _ hm he
    have hpos : ex.toNat ≠ 0 := fun hnat => hleast (BitVec.eq_of_toNat_eq hnat)
    exact ⟨by omega, by omega, by omega, .inl (by omega)⟩

/-- `Canonical` numbers are packed without loss. -/
theorem Canonical.unpack_pack {m : Nat} {e : Int} (hc : Canonical m e) (hm : 0 < m) :
    (Float.Model.pack (.finite .positive m e hm)).unpack = .finite .positive m e hm := by
  have hlargest := hc.le_largest
  rw [unpack_pack_finite .positive hm hc.lt hc.least_le, if_neg (by omega)]
  split_ifs with hfew
  · rfl
  · rw [hc.full.resolve_left hfew]

theorem unpack_pack_unpack (v : Float) : (Float.Model.pack v.toModel.unpack).unpack =
    v.toModel.unpack := by
  have h : UnpackedFloat.pack Format.binary64 v.toModel.unpack =
      v.toModel.toBits.toBitVec :=
    pack_unpack_of_valid v.toModel.valid
  change UnpackedFloat.unpack Format.binary64
    (UnpackedFloat.pack Format.binary64 v.toModel.unpack) = _
  rw [h]
  rfl

theorem add_comm (a b : UnpackedFloat) :
    UnpackedFloat.add Format.binary64 a b = UnpackedFloat.add Format.binary64 b a := by
  -- only two zeros and two infinities depend on both signs
  cases a with
  | notANumber => cases b <;> rfl
  | zero s =>
    cases b with
    | zero t => cases s <;> cases t <;> rfl
    | notANumber => rfl
    | infinity t => rfl
    | finite t m e h => rfl
  | infinity s =>
    cases b with
    | zero t => rfl
    | notANumber => rfl
    | infinity t => cases s <;> cases t <;> rfl
    | finite t m e h => rfl
  | finite s m e h =>
    cases b with
    | zero t => rfl
    | notANumber => rfl
    | infinity t => rfl
    | finite t m' e' h' =>
      simp only [UnpackedFloat.add]
      rw [min_comm, Int.add_comm]

/-- The exponent of the last digit that rounding keeps of `m * 2 ^ e`. -/
def lastExponent (m : Nat) (e : Int) : Int := max (m.log2 + e - 52) (-1074)

theorem add_dropped {m : Nat} {e : Int} (h : e ≤ lastExponent m e) :
    e + dropped m e = lastExponent m e := by
  unfold lastExponent at h ⊢
  unfold dropped
  omega

/-- All 53 digits are kept, or else the last one has the exponent `-1074`. -/
theorem full_div_dropped {m : Nat} {e : Int} (hm : 0 < m) (h : e ≤ lastExponent m e) :
    lastExponent m e = -1074 ∨ 2 ^ 52 ≤ m / 2 ^ dropped m e := by
  by_cases hleast : lastExponent m e = -1074
  · exact .inl hleast
  · right
    rw [Nat.le_div_iff_mul_le (Nat.two_pow_pos _), ← Nat.pow_add]
    refine le_trans (Nat.pow_le_pow_right (by decide) ?_) (Nat.log2_self_le hm.ne')
    unfold lastExponent at h hleast
    unfold dropped
    omega

/-- `full_div_dropped` for the mantissa after rounding. -/
theorem full_rounded {m : Nat} {e : Int} (hm : 0 < m)
    (h : e ≤ lastExponent m e) (a : Accuracy) :
    lastExponent m e = -1074 ∨ 2 ^ 52 ≤ rounded m e a :=
  (full_div_dropped hm h).imp_right fun hfull => hfull.trans (rounded_bounds m e a).1

/-- `rounded` as one `roundDiv`, with the number written at any exponent
`b ≤ e`. -/
theorem rounded_eq_roundDiv {m : Nat} {b e : Int} (hb : b ≤ e)
    (he : e ≤ lastExponent m e) :
    rounded m e .exact = roundDiv (m <<< (e - b).toNat)
      (2 ^ (lastExponent m e - b).toNat) := by
  have hdropped := add_dropped he
  have hpow : (lastExponent m e - b).toNat = dropped m e + (e - b).toNat := by omega
  rw [hpow, Nat.pow_add, Nat.shiftLeft_eq,
    roundDiv_mul_right _ _ (Nat.two_pow_pos _), rounded_eq]

/-- Of two numbers, the larger one keeps its digits from a larger exponent on,
or from the same with a `rounded` mantissa that is not smaller. -/
theorem rounded_lex {m m' : Nat} {e e' : Int} (hm : 0 < m) (he : e ≤ lastExponent m e)
    (he' : e' ≤ lastExponent m' e')
    (h : m <<< (e - min e e').toNat ≤ m' <<< (e' - min e e').toNat) :
    lastExponent m e < lastExponent m' e' ∧ 2 ^ 52 ≤ rounded m' e' .exact ∨
    lastExponent m e = lastExponent m' e' ∧
    rounded m e .exact ≤ rounded m' e' .exact := by
  have hshifted : 0 < m <<< (e - min e e').toNat := Nat.shiftLeft_pos_iff.mpr hm
  have hm' : 0 < m' := Nat.shiftLeft_pos_iff.mp (hshifted.trans_le h)
  have hlog : m.log2 + e ≤ m'.log2 + e' := by
    have hle := (Nat.le_log2 (hshifted.trans_le h).ne').mpr
      ((Nat.log2_self_le hshifted.ne').trans h)
    rw [log2_shiftLeft hm, log2_shiftLeft hm'] at hle
    omega
  have hleast : -1074 ≤ lastExponent m e := le_max_right _ _
  have hlast : lastExponent m e ≤ lastExponent m' e' := by
    unfold lastExponent
    omega
  rcases hlast.lt_or_eq with hlt | heq
  · exact .inl ⟨hlt, (full_rounded hm' he' _).resolve_left (by omega)⟩
  · refine .inr ⟨heq, ?_⟩
    -- brought to the same exponent, both are quotients by the same power of two
    rw [rounded_eq_roundDiv (min_le_left e e') he,
      rounded_eq_roundDiv (min_le_right e e') he', heq]
    exact roundDiv_mono _ h

/-- Packed numbers have their `rank`s in the lexicographic order of exponents
and mantissas. -/
theorem rank_pack_le {r r' : Nat} {t t' : Int} (hr : 0 < r) (hlt : r < 2 ^ 53)
    (ht : -1074 ≤ t) (hfull : t = -1074 ∨ 2 ^ 52 ≤ r) (hr' : 0 < r')
    (hlt' : r' < 2 ^ 53) (h : t < t' ∧ 2 ^ 52 ≤ r' ∨ t = t' ∧ r ≤ r') :
    rank (Float.Model.pack (.finite .positive r t hr)).unpack ≤
      rank (Float.Model.pack (.finite .positive r' t' hr')).unpack := by
  rw [unpack_pack_finite .positive hr hlt ht,
    unpack_pack_finite .positive hr' hlt' (by omega)]
  rcases hfull with hleast | hfull <;> split_ifs <;>
    simp only [rank, Prod.Lex.toLex_le_toLex, lt_irrefl, false_or, true_and,
      Nat.cast_le, le_refl] <;>
    omega

theorem unpack_pack_zero (s : Sign) : (Float.Model.pack (.zero s)).unpack = .zero s := by
  cases s <;> rfl

theorem rank_zero_le_pack {r : Nat} {t : Int} (s : Sign) (hr : 0 < r)
    (hlt : r < 2 ^ 53) (ht : -1074 ≤ t) :
    rank (Float.Model.pack (.zero s)).unpack ≤
      rank (Float.Model.pack (.finite .positive r t hr)).unpack := by
  rw [unpack_pack_zero, unpack_pack_finite .positive hr hlt ht]
  split_ifs <;> simp [rank, Prod.Lex.toLex_le_toLex]

/-- **Rounding is monotone**: `m * 2 ^ e ≤ m' * 2 ^ e'` survives
`roundWithAccuracy` and packing. -/
theorem rank_rounded_mono {m m' : Nat} {e e' : Int} (hm : 0 < m)
    (he : e ≤ lastExponent m e) (he' : e' ≤ lastExponent m' e')
    (h : m <<< (e - min e e').toNat ≤ m' <<< (e' - min e e').toNat) :
    rank (Float.Model.pack (roundWithAccuracy Format.binary64 .positive
        m e .exact)).unpack ≤
      rank (Float.Model.pack (roundWithAccuracy Format.binary64 .positive m' e'
        .exact)).unpack := by
  have hcase := rounded_lex hm he he' h
  have hleast : -1074 ≤ lastExponent m e := le_max_right _ _
  have hfull := full_rounded hm he .exact
  have hle := (rounded_bounds m e .exact).2.trans (Nat.succ_le_of_lt (div_dropped_lt m e))
  have hle' := (rounded_bounds m' e' .exact).2.trans
    (Nat.succ_le_of_lt (div_dropped_lt m' e'))
  rw [roundWithAccuracy_eq, roundWithAccuracy_eq]
  simp only [add_dropped he, add_dropped he']
  generalize rounded m e .exact = r at hcase hfull hle
  generalize rounded m' e' .exact = r' at hcase hle'
  -- either mantissa is rounded to zero, stays below `2 ^ 53` or reaches it
  split_ifs
  · exact le_rfl
  · exact rank_zero_le_pack _ _ ‹_› (by omega)
  · exact rank_zero_le_pack _ _ (by decide) (by omega)
  · omega
  · exact rank_pack_le _ ‹_› hleast hfull _ ‹_› hcase
  · exact rank_pack_le _ ‹_› hleast hfull _ (by decide) (.inl ⟨by omega, le_rfl⟩)
  · omega
  · exact rank_pack_le _ (by decide) (by omega) (.inr le_rfl) _ ‹_› (by omega)
  · exact rank_pack_le _ (by decide) (by omega) (.inr le_rfl) _ (by decide) (by omega)

/-- `Canonical` numbers are fixed by rounding. -/
theorem Canonical.round {m : Nat} {e : Int} (hc : Canonical m e) (hm : 0 < m) :
    e ≤ lastExponent m e ∧
    (Float.Model.pack (roundWithAccuracy Format.binary64 .positive m e .exact)).unpack =
      .finite .positive m e hm := by
  have hlog : 2 ^ 52 ≤ m → 52 ≤ m.log2 := (Nat.le_log2 hm.ne').mpr
  have hfull := hc.full
  constructor
  · unfold lastExponent
    omega
  · rw [roundWithAccuracy_exact hm hc.lt hc.least_le, hc.unpack_pack hm]

/-- Rounding a number from a `Canonical` one upward does not lead below it. -/
theorem rank_le_round {m N : Nat} {e l : Int} (hm : 0 < m) (hc : Canonical m e)
    (hl : l ≤ e) (h : m <<< (e - l).toNat ≤ N) :
    rank (.finite .positive m e hm) ≤
      rank (Float.Model.pack (UnpackedFloat.round Format.binary64
        .positive N l)).unpack := by
  obtain ⟨he, hround⟩ := hc.round hm
  have hN : 0 < N := (Nat.shiftLeft_pos_iff.mpr hm).trans_le h
  rw [← hround]
  simp only [UnpackedFloat.round, targetExponent_eq, decreaseExponent]
  generalize hi : (l - max ((N.log2 : Int) + l - 52) (-1074)).toNat = i
  refine rank_rounded_mono hm he ?_ ?_
  · unfold lastExponent
    rw [log2_shiftLeft hN]
    omega
  · rw [min_eq_right (by omega), Int.sub_self, Int.toNat_zero, Nat.shiftLeft_zero]
    have hsplit : (e - (l - i)).toNat = (e - l).toNat + i := by omega
    rw [hsplit, Nat.shiftLeft_add, Nat.shiftLeft_eq _ i, Nat.shiftLeft_eq N i]
    exact Nat.mul_le_mul_right _ h

theorem Positive.of_rank_le {m : Nat} {e : Int} {h : 0 < m} {b : UnpackedFloat}
    (hle : rank (.finite .positive m e h) ≤ rank b) : Positive b := by
  cases b with
  | notANumber => simp [rank, Prod.Lex.toLex_le_toLex] at hle
  | zero s => simp [rank, Prod.Lex.toLex_le_toLex] at hle
  | infinity s =>
    cases s with
    | positive => exact .infinity
    | negative => simp [rank, Prod.Lex.toLex_le_toLex] at hle
  | finite s m' e' h' =>
    cases s with
    | positive => exact .finite m' e' h'
    | negative => simp [rank, Prod.Lex.toLex_le_toLex] at hle

theorem Positive.ne_notANumber {a : UnpackedFloat} (h : Positive a) :
    a ≠ .notANumber := by
  cases h <;> rintro ⟨⟩

theorem Positive.cases {a : UnpackedFloat} (h : Positive a) :
    a = .infinity .positive ∨ ∃ m e hm, a = .finite .positive m e hm := by
  cases h with
  | infinity => exact .inl rfl
  | finite m e hm => exact .inr ⟨m, e, hm, rfl⟩

theorem Positive.rank_zero_le {a : UnpackedFloat} (h : Positive a) (s : Sign) :
    rank (.zero s) ≤ rank a := by
  cases h <;> simp [rank, Prod.Lex.toLex_le_toLex]

theorem Positive.rank_le_infinity {a : UnpackedFloat} (h : Positive a) :
    rank a ≤ rank (.infinity .positive) := by
  cases h <;> simp [rank, Prod.Lex.toLex_le_toLex]

theorem add_zero_right {a : UnpackedFloat} (ha : ∀ t, a ≠ .zero t) (s : Sign) :
    UnpackedFloat.add Format.binary64 a (.zero s) = a := by
  cases a with
  | zero t => exact absurd rfl (ha t)
  | notANumber => rfl
  | infinity t => rfl
  | finite t m e h => rfl

theorem add_infinity {a : UnpackedFloat} (ha : Positive a) :
    UnpackedFloat.add Format.binary64 a (.infinity .positive) = .infinity .positive := by
  cases ha <;> rfl

end Binary64

/-- `0 ≤ v` holds of zeros and of `Positive` numbers, and of nothing else. -/
theorem float_nonneg_iff (v : Float) :
    0 ≤ v ↔ (∃ s, v.toModel.unpack = .zero s) ∨ Positive v.toModel.unpack := by
  rw [← float_isZero_iff, ← float_pos_iff]
  constructor
  · intro h
    by_cases hpos : 0 < v
    · exact .inr hpos
    · exact .inl ⟨h, hpos⟩
  · rintro (h | h)
    · exact h.1
    · exact (LawfulOrder.lt_iff.mp h).1

theorem unpack_add (u v : Float) : (u + v).toModel.unpack =
    (Float.Model.pack (UnpackedFloat.add Format.binary64 u.toModel.unpack
      v.toModel.unpack)).unpack := rfl

theorem float_add_comm (u v : Float) : u + v = v + u :=
  congrArg (fun a => Float.ofModel (Float.Model.pack a)) (Binary64.add_comm _ _)

/-- Adding a zero changes at most the sign of a zero, which `rank` does not see. -/
theorem rank_add_zero (u : Float) {v : Float} {s : Sign}
    (hv : v.toModel.unpack = .zero s) :
    rank (u + v).toModel.unpack = rank u.toModel.unpack ∧
      ((u + v).toModel.unpack = .notANumber ↔ u.toModel.unpack = .notANumber) := by
  by_cases hu : ∃ t, u.toModel.unpack = .zero t
  · obtain ⟨t, ht⟩ := hu
    rw [unpack_add, hv, ht]
    cases s <;> cases t <;> exact ⟨rfl, by constructor <;> rintro ⟨⟩⟩
  · rw [unpack_add, hv, add_zero_right (not_exists.mp hu), unpack_pack_unpack]
    exact ⟨rfl, Iff.rfl⟩

/-- A sum of `Positive` numbers is positive, and not below its first term. -/
theorem rank_le_add {u v : Float} (hu : Positive u.toModel.unpack)
    (hv : Positive v.toModel.unpack) :
    Positive (u + v).toModel.unpack ∧
    rank u.toModel.unpack ≤ rank (u + v).toModel.unpack := by
  rcases hv.cases with hinfinite | ⟨m', e', hm', hfinite'⟩
  · rw [unpack_add, hinfinite, add_infinity hu]
    exact ⟨.infinity, hu.rank_le_infinity⟩
  · rcases hu.cases with hinfinite | ⟨m, e, hm, hfinite⟩
    · rw [unpack_add, hinfinite, Binary64.add_comm, add_infinity hv]
      exact ⟨.infinity, le_rfl⟩
    · have hround := rank_le_round hm (canonical_of_unpack hfinite) (min_le_left e e')
        (Nat.le_add_right (m <<< (e - min e e').toNat) (m' <<< (e' - min e e').toNat))
      rw [← add_finite hm hm', ← hfinite, ← hfinite', ← unpack_add] at hround
      exact ⟨.of_rank_le (hfinite ▸ hround), hround⟩

/-- **Sums are not below their terms**: `u ≤ u + v` for nonnegative `u` and `v`. -/
theorem float_le_add {u v : Float} (hu : 0 ≤ u) (hv : 0 ≤ v) : u ≤ u + v := by
  rw [float_le_iff_rank, float_le_self_iff (u + v)]
  have hdefined := (LawfulOrder.defined_of_le hu).2
  refine ⟨hdefined, ?_⟩
  rcases (float_nonneg_iff v).mp hv with ⟨t, ht⟩ | hpos'
  · obtain ⟨hrank, hnot⟩ := rank_add_zero u ht
    exact ⟨fun h => (float_le_self_iff u).mp hdefined (hnot.mp h), hrank.ge⟩
  · rcases (float_nonneg_iff u).mp hu with ⟨s, hs⟩ | hpos
    · obtain ⟨hrank, hnot⟩ := rank_add_zero v hs
      rw [float_add_comm, hrank, hs]
      exact ⟨fun h => hpos'.ne_notANumber (hnot.mp h), hpos'.rank_zero_le s⟩
    · obtain ⟨hsum, hle⟩ := rank_le_add hpos hpos'
      exact ⟨hsum.ne_notANumber, hle⟩

instance : LawfulSums Float where
  le_add_right := float_le_add
  le_add_left {u v} hu hv := by
    rw [float_add_comm]
    exact float_le_add hv hu
  add_le_of_isZero {u v} hu hv := by
    obtain ⟨s, hs⟩ := (float_isZero_iff v).mp hv
    obtain ⟨hrank, hnot⟩ := rank_add_zero u hs
    rw [float_le_iff_rank, float_le_self_iff (u + v)]
    exact ⟨fun h => (float_le_self_iff u).mp hu (hnot.mp h), hu, hrank.le⟩

end ReachMixture
