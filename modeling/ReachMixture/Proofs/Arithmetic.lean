import Mathlib
import ReachMixture.Scalar

/-!
# What proofs ask of numbers

The algorithms of the library are written over any number type. Facts about them
ask for as little of it as they can:

- `LawfulSigns`: comparisons with zero that can be relied on. Rounding, overflow
  and undefined numbers do not matter here, and `Float` satisfies it as well as
  every ordered type does.
- `LawfulWeights`: what weights need beyond that, so that a fit can sample from
  them. `Float` satisfies it too, which takes a look at how sums are rounded
  (`Proofs/Binary64`).
- `LawfulStart`: what the first location of a fit needs beyond that, whose
  coordinates are ones.
- `LawfulCoordinates`: what coordinates need beyond that, so that a location can
  be told to be valid by its least coordinate and its sum. An undefined
  coordinate is never the least one, but it makes the sum undefined.
- `LawfulZeros`: zeros, of whatever sign, add up to zeros.
- `ExactScalar`: an ordered field without infinite or undefined numbers, for
  facts about exact arithmetic.
- `ExactRoots`: positive numbers have exact square roots.
-/

namespace ReachMixture

/-- Comparisons with `0` that can be relied on, in an arithmetic with undefined
numbers. -/
class LawfulSigns (α : Type) [Zero α] [LT α] [LE α] : Prop where
  /-- A positive number is not nonpositive. -/
  not_le_of_pos : ∀ {v : α}, 0 < v → ¬ v ≤ 0
  /-- A negative number is nonpositive. -/
  le_of_neg : ∀ {v : α}, v < 0 → v ≤ 0
  /-- Zero is nonpositive. -/
  zero_le_zero : (0 : α) ≤ 0

namespace LawfulSigns

variable {α : Type} [Zero α] [LT α] [LE α] [LawfulSigns α]

/-- `¬ v ≤ 0` rules out `v < 0`. An undefined `v` satisfies both. -/
theorem not_neg_of_not_le {v : α} (h : ¬ v ≤ 0) : ¬ v < 0 :=
  fun hneg => h (le_of_neg hneg)

theorem not_neg_of_pos {v : α} (h : 0 < v) : ¬ v < 0 :=
  not_neg_of_not_le (not_le_of_pos h)

theorem not_zero_neg : ¬ (0 : α) < 0 :=
  fun h => not_le_of_pos h zero_le_zero

end LawfulSigns

instance {α : Type} [Zero α] [Preorder α] : LawfulSigns α where
  not_le_of_pos h := not_le_of_gt h
  le_of_neg h := le_of_lt h
  zero_le_zero := le_refl 0

/-- Numbers that weights can be made of: `IsWeight` gives `0 ≤ v`, and the
starting weights `1 / k` have a finite `totalOf`. -/
class LawfulWeights (α : Type) [Zero α] [One α] [Add α] [Div α] [LT α] [LE α]
    [NatCast α] [Scalar α] : Prop
    extends LawfulSigns α where
  /-- A finite number that is not negative is zero or more. Undefined numbers
  are not finite. -/
  nonneg_of_not_neg : ∀ {v : α}, Scalar.isFinite v = true → ¬ v < 0 → 0 ≤ v
  /-- Any number of shares `1 / k` has a finite sum. -/
  isFinite_shares : ∀ k : Nat, Scalar.isFinite
    ((List.replicate k (1 / ((k + 1 : Nat) : α))).foldl (· + ·)
      (1 / ((k + 1 : Nat) : α))) = true

/-- Numbers that a fit can start with: a location of ones, weight `1 / 1`, as
`FitConfig.start` makes it. -/
class LawfulStart (α : Type) [Zero α] [One α] [Add α] [Div α] [LT α] [LE α]
    [NatCast α] [Scalar α] : Prop
    extends LawfulWeights α where
  /-- What is zero or more is not negative. -/
  not_neg_of_nonneg : ∀ {v : α}, 0 ≤ v → ¬ v < 0
  /-- One is finite. -/
  isFinite_one : Scalar.isFinite (1 : α) = true
  /-- The whole of one is positive. -/
  share_pos : (0 : α) < 1 / ((1 : Nat) : α)
  /-- Any positive number of ones has a positive sum, hence passes `isStart`. -/
  ones_pos : ∀ k : Nat, (0 : α) < (List.replicate (k + 1) 1).foldl (· + ·) 0

/-- Numbers that coordinates can be made of. Those with `v ≤ v` are the defined
ones. -/
class LawfulCoordinates (α : Type) [Zero α] [One α] [Add α] [LT α] [LE α] : Prop where
  /-- One is positive. -/
  one_pos : (0 : α) < 1
  /-- Positive numbers are defined. -/
  defined_of_pos : ∀ {v : α}, 0 < v → v ≤ v
  /-- What is larger than a positive number is positive. -/
  pos_of_lt : ∀ {u v : α}, 0 < u → u < v → 0 < v
  /-- What is not smaller than a positive number is positive, if it is defined. -/
  pos_of_not_lt : ∀ {u v : α}, 0 < u → v ≤ v → ¬ v < u → 0 < v
  /-- A sum is defined only if its terms are. -/
  defined_of_add : ∀ {u v : α}, u + v ≤ u + v → u ≤ u ∧ v ≤ v

instance {α : Type} [Semiring α] [LinearOrder α] [IsStrictOrderedRing α] :
    LawfulCoordinates α where
  one_pos := zero_lt_one
  defined_of_pos _ := le_rfl
  pos_of_lt hu huv := hu.trans huv
  pos_of_not_lt hu _ huv := hu.trans_le (not_lt.mp huv)
  defined_of_add _ := ⟨le_rfl, le_rfl⟩

/-- `0 ≤ v` and not `0 < v`: zero, of whatever sign. -/
def IsZero {α : Type} [Zero α] [LT α] [LE α] (v : α) : Prop := 0 ≤ v ∧ ¬ 0 < v

instance {α : Type} [Zero α] [LT α] [LE α] [DecidableLT α] [DecidableLE α] (v : α) :
    Decidable (IsZero v) :=
  inferInstanceAs (Decidable (_ ∧ _))

/-- Numbers whose zeros add up to zeros, so that a `totalOf` of zeros leaves
nothing to share. -/
class LawfulZeros (α : Type) [Zero α] [Add α] [LT α] [LE α] : Prop where
  isZero_add : ∀ {u v : α}, IsZero u → IsZero v → IsZero (u + v)

instance {α : Type} [AddMonoid α] [PartialOrder α] : LawfulZeros α where
  isZero_add {u v} hu hv := by
    rw [← eq_of_le_of_not_lt hu.1 hu.2, ← eq_of_le_of_not_lt hv.1 hv.2, add_zero]
    exact ⟨le_rfl, lt_irrefl 0⟩

/-!
## Floating-point numbers

A comparison of floating-point numbers is decided on their unpacked forms.
-/

section Float

open Float.Model

theorem float_lt_iff (a b : Float) :
    a < b ↔ a.toModel.unpack.compare b.toModel.unpack = some .lt := by
  show Float.lt a b = true ↔ _
  unfold Float.lt
  rw [decide_eq_true_iff]
  show Float.Model.lt _ _ = true ↔ _
  unfold Float.Model.lt UnpackedFloat.lt
  exact beq_iff_eq

theorem float_le_iff (a b : Float) :
    a ≤ b ↔ (a.toModel.unpack.compare b.toModel.unpack).any (·.isLE) = true := by
  show Float.le a b = true ↔ _
  unfold Float.le
  rw [decide_eq_true_iff]
  rfl

instance : LawfulSigns Float where
  not_le_of_pos {v} h := by
    rw [float_lt_iff] at h
    rw [float_le_iff]
    change UnpackedFloat.compare (.zero .positive) _ = _ at h
    change ¬ Option.any _ (UnpackedFloat.compare _ (.zero .positive)) = true
    -- an undefined number is comparable to nothing, so only the sign of the
    -- others is left
    cases hv : v.toModel.unpack with
    | notANumber => rw [hv] at h; cases h
    | zero s => rw [hv] at h; cases h
    | infinity s =>
      rw [hv] at h
      cases s with
      | positive => simp [UnpackedFloat.compare]
      | negative => cases h
    | finite s m e =>
      rw [hv] at h
      cases s with
      | positive => simp [UnpackedFloat.compare]
      | negative => cases h
  le_of_neg {v} h := by
    rw [float_lt_iff] at h
    rw [float_le_iff, h]
    rfl
  zero_le_zero := by decide

namespace Binary64

/-- Larger than zero, as a case distinction on the unpacked form. -/
inductive Positive : UnpackedFloat → Prop where
  | infinity : Positive (.infinity .positive)
  | finite (m : Nat) (e : Int) (h : 0 < m) : Positive (.finite .positive m e h)

theorem positive_iff (a : UnpackedFloat) : Positive a ↔
    UnpackedFloat.compare (.zero .positive) a = some .lt := by
  constructor
  · intro h
    cases h <;> rfl
  · intro h
    cases a with
    | notANumber => cases h
    | zero s => cases h
    | infinity s =>
      cases s with
      | positive => exact .infinity
      | negative => cases h
    | finite s m e hm =>
      cases s with
      | positive => exact .finite m e hm
      | negative => cases h

/-- A `Positive` number compares as larger than every one that is not,
`notANumber` apart. -/
theorem Positive.compare {a b : UnpackedFloat} (ha : Positive a) (hb : ¬ Positive b) :
    b = .notANumber ∨ a.compare b = some .gt ∧ b.compare a = some .lt := by
  cases b with
  | notANumber => exact .inl rfl
  | zero s => cases ha <;> exact .inr ⟨rfl, rfl⟩
  | infinity s =>
    cases s with
    | positive => exact absurd .infinity hb
    | negative => cases ha <;> exact .inr ⟨rfl, rfl⟩
  | finite s m e h =>
    cases s with
    | positive => exact absurd (.finite m e h) hb
    | negative => cases ha <;> exact .inr ⟨rfl, rfl⟩

theorem compare_notANumber (a : UnpackedFloat) : a.compare .notANumber = none := by
  cases a <;> rfl

theorem add_notANumber {a b : UnpackedFloat} (h : a = .notANumber ∨ b = .notANumber) :
    UnpackedFloat.add Format.binary64 a b = .notANumber := by
  rcases h with rfl | rfl
  · cases b <;> rfl
  · cases a <;> rfl

end Binary64

open Binary64

theorem float_pos_iff (v : Float) : 0 < v ↔ Positive v.toModel.unpack := by
  rw [float_lt_iff, positive_iff]
  rfl

/-- `v ≤ v` fails for undefined numbers only, so it serves as the test for them. -/
theorem float_le_self_iff (v : Float) : v ≤ v ↔ v.toModel.unpack ≠ .notANumber := by
  rw [float_le_iff]
  cases v.toModel.unpack with
  | notANumber => simp [UnpackedFloat.compare]
  | zero s => simp [UnpackedFloat.compare]
  | infinity s => cases s <;> simp [UnpackedFloat.compare] <;> decide
  | finite s m e h => cases s <;> simp [UnpackedFloat.compare, Std.ReflCmp.compare_self]

instance : LawfulCoordinates Float where
  one_pos := by decide
  defined_of_pos {v} h := by
    rw [float_pos_iff] at h
    rw [float_le_self_iff]
    intro hv
    rw [hv] at h
    cases h
  pos_of_lt {u v} hu huv := by
    rw [float_lt_iff] at huv
    rw [float_pos_iff] at hu ⊢
    by_contra hv
    rcases hu.compare hv with hundefined | ⟨hgt, -⟩
    · rw [hundefined, compare_notANumber] at huv
      cases huv
    · exact nomatch hgt.symm.trans huv
  pos_of_not_lt {u v} hu hv huv := by
    rw [float_lt_iff] at huv
    rw [float_le_self_iff] at hv
    rw [float_pos_iff] at hu ⊢
    by_contra hneg
    rcases hu.compare hneg with hundefined | ⟨-, hlt⟩
    · exact hv hundefined
    · exact huv hlt
  defined_of_add {u v} h := by
    rw [float_le_self_iff] at h
    rw [float_le_self_iff, float_le_self_iff]
    change (pack (UnpackedFloat.add Format.binary64 u.toModel.unpack
      v.toModel.unpack)).unpack ≠ _ at h
    constructor
    · intro hu
      rw [add_notANumber (.inl hu)] at h
      exact h rfl
    · intro hv
      rw [add_notANumber (.inr hv)] at h
      exact h rfl

theorem float_isZero_iff (v : Float) : IsZero v ↔ ∃ s, v.toModel.unpack = .zero s := by
  rw [IsZero, float_le_iff, float_lt_iff]
  change (Option.any _ (UnpackedFloat.compare (.zero .positive) _) = true ∧
    ¬ UnpackedFloat.compare (.zero .positive) _ = _) ↔ _
  cases v.toModel.unpack with
  | notANumber => simp [UnpackedFloat.compare]
  | zero s => simp [UnpackedFloat.compare]
  | infinity s => cases s <;> simp [UnpackedFloat.compare]
  | finite s m e h => cases s <;> simp [UnpackedFloat.compare]

instance : LawfulZeros Float where
  isZero_add {u v} hu hv := by
    obtain ⟨s, hs⟩ := (float_isZero_iff u).mp hu
    obtain ⟨t, ht⟩ := (float_isZero_iff v).mp hv
    rw [float_isZero_iff]
    change ∃ s, (pack (UnpackedFloat.add Format.binary64 u.toModel.unpack
      v.toModel.unpack)).unpack = _
    rw [hs, ht]
    cases s <;> cases t <;> exact ⟨_, rfl⟩

end Float

/-! ## Exact arithmetic -/

/-- Numbers of an ordered field with `Scalar.isFinite` constantly true. The
rounding unit `Scalar.epsilon` that tolerances are made of is not negative. -/
class ExactScalar (α : Type) [Field α] [LinearOrder α] [Scalar α] : Prop where
  isFinite_eq_true : ∀ v : α, Scalar.isFinite v = true
  epsilon_nonneg : (0 : α) ≤ Scalar.epsilon

instance {α : Type} [Field α] [LinearOrder α] [Scalar α] [ExactScalar α] :
    LawfulWeights α where
  nonneg_of_not_neg _ h := not_lt.mp h
  isFinite_shares _ := ExactScalar.isFinite_eq_true _

instance {α : Type} [Field α] [LinearOrder α] [IsStrictOrderedRing α]
    [Scalar α] [ExactScalar α] :
    LawfulStart α where
  not_neg_of_nonneg h := not_lt.mpr h
  isFinite_one := ExactScalar.isFinite_eq_true _
  share_pos := by simp
  ones_pos k := by
    rw [← List.sum_eq_foldl, List.sum_replicate, nsmul_one]
    exact Nat.cast_pos.mpr k.succ_pos

/-- `Scalar.sqrt` is exact on positive numbers. Cholesky elimination needs no
more of a root. -/
class ExactRoots (α : Type) [Zero α] [Mul α] [LT α] [Scalar α] : Prop where
  sqrt_mul_sqrt : ∀ {v : α}, 0 < v → Scalar.sqrt v * Scalar.sqrt v = v

/-- `ℚ`, with `Rat.sqrt`, which is exact on squares. There is no exponential;
`expm1 x := x` is the first term of its series. -/
instance : Scalar ℚ where
  isFinite _ := true
  sqrt := Rat.sqrt
  expm1 x := x
  epsilon := 1 / 2 ^ 52

instance : ExactScalar ℚ where
  isFinite_eq_true _ := rfl
  epsilon_nonneg := by norm_num [Scalar.epsilon]

noncomputable instance : Scalar ℝ where
  isFinite _ := true
  sqrt := Real.sqrt
  expm1 x := Real.exp x - 1
  epsilon := 1 / 2 ^ 52

instance : ExactScalar ℝ where
  isFinite_eq_true _ := rfl
  epsilon_nonneg := by norm_num [Scalar.epsilon]

instance : ExactRoots ℝ where
  sqrt_mul_sqrt h := Real.mul_self_sqrt h.le

end ReachMixture
