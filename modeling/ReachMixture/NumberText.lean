import ReachMixture.Decimal.Layout
import ReachMixture.Decimal.Reader

/-!
# Numbers as text

The five ways in which numbers meet text in this library: they are read from
arguments, written plainly in messages, with fixed places in tables, with an
exponent where only the size matters, and as values of an interchange document.
-/

namespace ReachMixture

/-- How numbers of a type `α` are read and written. -/
class NumberText (α : Type) where
  /-- The number that a text stands for, or `none`. -/
  read? : String → Option α
  /-- The fewest digits that read back, never with an exponent. -/
  plain : α → String
  /-- `fixed places x` has `places` digits after the point. -/
  fixed : Nat → α → String
  /-- `scientific places x` has one digit before the point, `places` after it,
  and an exponent. -/
  scientific : Nat → α → String
  /-- A value of a JSON document. -/
  value : α → String

/-- The layout of `plain`: no exponent, and no point in whole numbers. Of two
equally good decimals the larger is taken. -/
def plainLayout : Decimal.Layout where
  positionalFrom := none
  positionalBelow := none
  pointZero := false
  tie := .upward

/-- The layout of `value`: whole numbers keep a point, and an exponent is used
below `10^-5` and from `10^16` on. Of two equally good decimals the even one is
taken. -/
def valueLayout : Decimal.Layout where
  positionalFrom := some (-5)
  positionalBelow := some 16
  pointZero := true
  tie := .toEven

/-- `valueLayout` for finite numbers. JSON has no text for the others, so they
become `null`. -/
def documentValue (x : Float) : String :=
  if x.isFinite then valueLayout.write x else "null"

instance : NumberText Float where
  read? s := (Decimal.Literal.read? s.toList).map Decimal.Literal.toFloat
  plain := plainLayout.write
  fixed := Decimal.fixed
  scientific := Decimal.scientific
  value := documentValue

end ReachMixture
