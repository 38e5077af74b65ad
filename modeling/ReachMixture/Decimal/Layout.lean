import ReachMixture.Decimal.Shortest

/-!
# Decimal text

How digits are set down: with a fixed number of places, with an exponent, or
with the fewest digits that read back.

- `fixed`: a given number of places and no exponent.
- `scientific`: one digit before the point, a given number after it, and an
  exponent.
- `Layout`, `Layout.write`: the fewest digits, set down by the rules of a
  format.
-/

namespace ReachMixture.Decimal

/-- The decimal digits of `n`, without leading zeros. -/
def digitText (n : Nat) : List Char := Nat.toDigits 10 n

/-- `digitText n` with zeros in front up to `width` digits. -/
def paddedDigits (width n : Nat) : List Char :=
  let digits := digitText n
  List.replicate (width - digits.length) '0' ++ digits

/-- A minus sign in front of the text of a negative number. -/
def signed (negative : Bool) (text : List Char) : List Char :=
  if negative then '-' :: text else text

/-- The text of a number, given that of finite values: `NaN`, `inf` and `-inf`
are the others. -/
def textOf (x : Float) (finite : Binary → List Char) : String :=
  match Parts.ofFloat x with
  | .undefined => "NaN"
  | .infinite negative => String.ofList (signed negative ['i', 'n', 'f'])
  | .finite negative b => String.ofList (signed negative (finite b))

/-- The value rounded to `places` places behind the point; no point without
places. -/
def fixedDigits (places : Nat) (b : Binary) : List Char :=
  let n := b.atPlaces places
  let one := Nat.pow 10 places
  let whole := digitText (n / one)
  if places = 0 then whole else whole ++ '.' :: paddedDigits places (n % one)

/-- `fixedDigits` of a number, with its sign. -/
def fixed (places : Nat) (x : Float) : String := textOf x (fixedDigits places)

/-- `e` in decimal digits, with a minus sign if it is negative. -/
def exponentText (e : Int) : List Char := signed (e < 0) (digitText e.natAbs)

/-- A point behind the first digit, if there are more. -/
def pointed : List Char → List Char
  | [] => []
  | [d] => [d]
  | d :: rest => d :: '.' :: rest

/-- The value with `places` digits behind the first one, `e` and its exponent. -/
def scientificDigits (places : Nat) (b : Binary) : List Char :=
  let d := b.atDigits places
  pointed (paddedDigits (places + 1) d.digits) ++
    'e' :: exponentText (d.exponent + places)

/-- `scientificDigits` of a number, with its sign. -/
def scientific (places : Nat) (x : Float) : String := textOf x (scientificDigits places)

/-- The rules of a format for numbers with the fewest digits. -/
structure Layout where
  /-- Numbers whose leading digit has an exponent below this one are written
  with an exponent. -/
  positionalFrom : Option Int
  /-- Numbers whose leading digit has this exponent or a larger one are written
  with an exponent. -/
  positionalBelow : Option Int
  /-- Whole numbers end in `.0`. -/
  pointZero : Bool
  /-- Which of two equally good decimals is written. -/
  tie : Tie

namespace Layout

/-- Whether a number whose leading digit has the exponent `leading` is written
without one. -/
def isPositional (l : Layout) (leading : Int) : Bool :=
  (l.positionalFrom.all fun e => decide (e ≤ leading)) &&
    (l.positionalBelow.all fun e => decide (leading < e))

/-- `digits · 10^exponent` without an exponent: zeros behind, a point inside, or
`0.` and zeros in front. -/
def positional (l : Layout) (digits : List Char) (exponent : Int) : List Char :=
  if 0 ≤ exponent then
    digits ++ List.replicate exponent.toNat '0' ++ if l.pointZero then ['.', '0'] else []
  else
    let places := (-exponent).toNat
    if places < digits.length then
      digits.take (digits.length - places) ++ '.' :: digits.drop (digits.length - places)
    else '0' :: '.' :: (List.replicate (places - digits.length) '0' ++ digits)

/-- Digits, a point behind the first, `e` and a signed exponent. -/
def exponential (digits : List Char) (leading : Int) : List Char :=
  pointed digits ++ 'e' :: (if leading < 0 then '-' else '+') :: digitText leading.natAbs

/-- The `shortest` decimal of a value, in the form that `isPositional` chooses. -/
def finite (l : Layout) (b : Binary) : List Char :=
  let d := b.shortest l.tie
  let digits := digitText d.digits
  let leading := d.exponent + (digits.length : Int) - 1
  if b.significand = 0 || l.isPositional leading then l.positional digits d.exponent
  else exponential digits leading

/-- A number with the fewest digits that read back, by the rules `l`. -/
def write (l : Layout) (x : Float) : String := textOf x l.finite

end Layout

end ReachMixture.Decimal
