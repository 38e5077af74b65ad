/-!
# Scalars

The numbers that reach curves, weights and locations are made of. Every
algorithm of the library is written over a type `α` with the usual arithmetic
and order; what it needs beyond them is collected in `Scalar`. The library runs
over `Float`, and its algorithms can be read over an exact ordered field as
well.

- `Scalar`: finiteness, square root, `exp x - 1` and the unit of rounding.
- `Scalar.expMinusOne`: `exp x - 1` without cancellation near zero.
-/

namespace ReachMixture

/-- What a number type `α` offers beyond field arithmetic and order. `Float` is
the instance that runs. -/
class Scalar (α : Type) where
  /-- Neither infinite nor undefined. -/
  isFinite : α → Bool
  /-- The square root of a nonnegative number. -/
  sqrt : α → α
  /-- `exp x - 1`, accurate for small `x`. -/
  expm1 : α → α
  /-- The distance from `1` to the next larger number. -/
  epsilon : α

/-- `exp x - 1`. Away from zero the subtraction loses nothing. Near zero the
rounding error of `exp x` is divided out again: with `u` the rounded
exponential, `(u - 1) / log u` is a good approximation of `(exp x - 1) / x` even
where `u - 1` alone is not one of `exp x - 1`. -/
def Scalar.expMinusOne (x : Float) : Float :=
  let u := Float.exp x
  if x < -1.0 || 1.0 < x then u - 1.0
  else if u == 1.0 then x
  else (u - 1.0) * (x / Float.log u)

instance instNatCastFloat : NatCast Float := ⟨Float.ofNat⟩

instance : Scalar Float where
  isFinite := Float.isFinite
  sqrt := Float.sqrt
  expm1 := Scalar.expMinusOne
  epsilon := 2.220446049250313e-16

end ReachMixture
