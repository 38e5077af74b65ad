/-!
# Binary values

A floating-point number taken apart: its sign and, if it is finite, the exact
value `significand · 2^exponent`. Everything that is written about a number is
computed from these naturals.
-/

namespace ReachMixture.Decimal

/-- A finite nonnegative value `significand · 2^exponent`. -/
structure Binary where
  /-- The integer factor. -/
  significand : Nat
  /-- The power of two. -/
  exponent : Int
  /-- The next smaller number is only half as far away as the next larger one. -/
  narrowBelow : Bool

/-- What a binary64 number stands for. -/
inductive Parts where
  /-- No number. -/
  | undefined
  /-- An infinity. -/
  | infinite (negative : Bool)
  /-- A number with its sign; zero has a sign too. -/
  | finite (negative : Bool) (value : Binary)

/-- Takes the 64 bits of a number apart: one bit of sign, eleven of exponent, 52
of fraction. The exponent `0x7FF` is that of infinities and undefined numbers,
`0` that of the numbers without a leading one. -/
def Parts.ofBits (bits : UInt64) : Parts :=
  let negative := bits >>> 63 == 1
  let exponent := ((bits >>> 52) &&& 0x7FF).toNat
  let fraction := (bits &&& 0xFFFFFFFFFFFFF).toNat
  if exponent = 0x7FF then
    if fraction = 0 then .infinite negative else .undefined
  else if exponent = 0 then .finite negative ⟨fraction, -1074, false⟩
  else .finite negative ⟨0x10000000000000 + fraction, (exponent : Int) - 1075,
    fraction == 0 && 1 < exponent⟩

/-- `Parts.ofBits` of a number. -/
def Parts.ofFloat (x : Float) : Parts := .ofBits x.toBits

namespace Binary

/-- Numerator and denominator of the value times `10^shift`. -/
def ratio (b : Binary) (shift : Int) : Nat × Nat :=
  (b.significand * Nat.pow 10 shift.toNat * Nat.pow 2 b.exponent.toNat,
    Nat.pow 10 (-shift).toNat * Nat.pow 2 (-b.exponent).toNat)

/-- Whether the value is less than `10^e`. -/
def isBelow (b : Binary) (e : Int) : Bool :=
  let (num, den) := b.ratio (-e)
  num < den

/-- The decimal exponent of the leading digit of a positive value: the greatest
`e` with `10^e` not above it. The binary logarithm gives an estimate that is off
by one at most. -/
def leading (b : Binary) : Int :=
  let estimate := Int.fdiv (((Nat.log2 b.significand : Nat) + b.exponent) * 30103) 100000
  ([estimate - 1, estimate, estimate + 1].find? fun e => b.isBelow (e + 1)).getD
    (estimate + 2)

end Binary

end ReachMixture.Decimal
