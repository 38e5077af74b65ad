import ReachMixture.Decimal.Binary

/-!
# Rounding to a decimal grid

The nearest multiple of a power of ten, from the exact value. A value half-way
between two multiples goes to the one with an even last digit.
-/

namespace ReachMixture.Decimal

/-- `digits · 10^exponent`. -/
structure Numeral where
  /-- The digits as a natural number. -/
  digits : Nat
  /-- The power of ten. -/
  exponent : Int
deriving DecidableEq

/-- `num / den` rounded to the nearest natural number, halves to even. -/
def roundDiv (num den : Nat) : Nat :=
  let q := num / den
  let r := num % den
  if 2 * r < den then q
  else if den < 2 * r then q + 1
  else if q % 2 = 0 then q
  else q + 1

namespace Binary

/-- The value as a rounded multiple of `10^(-places)`. -/
def atPlaces (b : Binary) (places : Int) : Nat :=
  let (num, den) := b.ratio places
  roundDiv num den

/-- The value with `places + 1` significant digits. One that rounds up to the
next power of ten keeps that many digits. Zero is all zeros. -/
def atDigits (b : Binary) (places : Nat) : Numeral :=
  if b.significand = 0 then ⟨0, -(places : Int)⟩
  else
    let grid := b.leading - places
    let digits := b.atPlaces (-grid)
    if digits = Nat.pow 10 (places + 1) then ⟨Nat.pow 10 places, grid + 1⟩
    else ⟨digits, grid⟩

end Binary

end ReachMixture.Decimal
