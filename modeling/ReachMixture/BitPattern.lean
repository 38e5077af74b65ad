import ReachMixture.NumberText
import ReachMixture.Scalar

/-!
# Numbers by their bits

A floating-point number as the 64 bits that stand for it. Settings read over
this type keep every bit of what was given, also the sign of an undefined
number, which has no part in arithmetic. Arithmetic and order are those of the
number.
-/

namespace ReachMixture

/-- The 64 bits of a binary64 number. Unlike numbers, patterns can be compared
for equality when they are undefined. -/
structure BitPattern where
  /-- One bit of sign, eleven of exponent, 52 of fraction. -/
  bits : UInt64
deriving DecidableEq

namespace BitPattern

/-- The bits of `x`. -/
def ofFloat (x : Float) : BitPattern := ⟨x.toBits⟩

/-- The number that has the bits `x.bits`. -/
def toFloat (x : BitPattern) : Float := Float.ofBits x.bits

/-- `x.bits` as sixteen hexadecimal digits. -/
def hex (x : BitPattern) : String :=
  let digits := Nat.toDigits 16 x.bits.toNat
  String.ofList (List.replicate (16 - digits.length) '0' ++ digits)

instance : Zero BitPattern := ⟨ofFloat 0.0⟩

instance : One BitPattern := ⟨ofFloat 1.0⟩

instance : Div BitPattern := ⟨fun x y => ofFloat (x.toFloat / y.toFloat)⟩

instance : NatCast BitPattern := ⟨fun n => ofFloat (Float.ofNat n)⟩

instance : LT BitPattern := ⟨fun x y => x.toFloat < y.toFloat⟩

instance : DecidableLT BitPattern :=
  fun x y => inferInstanceAs (Decidable (x.toFloat < y.toFloat))

instance : Scalar BitPattern where
  isFinite x := x.toFloat.isFinite
  sqrt x := ofFloat x.toFloat.sqrt
  expm1 x := ofFloat (Scalar.expm1 x.toFloat)
  epsilon := ofFloat Scalar.epsilon

instance : NumberText BitPattern where
  read? s := (Decimal.Literal.read? s.toList).map fun l => ⟨l.toBits⟩
  plain x := NumberText.plain x.toFloat
  fixed places x := NumberText.fixed places x.toFloat
  scientific places x := NumberText.scientific places x.toFloat
  value x := NumberText.value x.toFloat

end BitPattern

end ReachMixture
