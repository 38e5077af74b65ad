import ReachMixture.Decimal.Rounding

/-!
# The shortest decimal that reads back

Every decimal in a certain interval around a binary value is read as that value.
Of these decimals the one with the fewest digits is chosen, and of equally short
ones the nearest.

- `Binary.readsBack`: the interval.
- `Binary.onGrid?`: the choice on one grid.
- `Binary.shortest`: the first grid, coarsest first, that has a choice.
-/

namespace ReachMixture.Decimal

/-- Where a value half-way between two equally short decimals goes. -/
inductive Tie where
  /-- To the even neighbour. -/
  | toEven
  /-- To the larger neighbour. -/
  | upward

/-- Compares `a · 10^i` with `b · 2^j`. -/
def compareScaled (a : Nat) (i : Int) (b : Nat) (j : Int) : Ordering :=
  compare (a * Nat.pow 10 i.toNat * Nat.pow 2 (-j).toNat)
    (b * Nat.pow 2 j.toNat * Nat.pow 10 (-i).toNat)

/-- Drops trailing zeros of `digits`, at most `limit` of them. -/
def Numeral.strip (d : Numeral) : (limit : Nat) → Numeral
  | 0 => d
  | limit + 1 =>
    if d.digits % 10 = 0 then Numeral.strip ⟨d.digits / 10, d.exponent + 1⟩ limit else d

namespace Binary

/-- Whether `d` lies among the numbers that are rounded to `b`: from half-way to
the neighbour below to half-way to the neighbour above, ends included if the
significand is even. -/
def readsBack (b : Binary) (d : Numeral) : Bool :=
  let low := if b.narrowBelow then 4 * b.significand - 1 else 4 * b.significand - 2
  let high := 4 * b.significand + 2
  let ends := b.significand % 2 == 0
  let fromLow := compareScaled d.digits d.exponent low (b.exponent - 2)
  let fromHigh := compareScaled d.digits d.exponent high (b.exponent - 2)
  (fromLow == .gt || (ends && fromLow == .eq)) &&
    (fromHigh == .lt || (ends && fromHigh == .eq))

/-- The nearest multiple of `10^grid` that `readsBack`; `tie` decides between
two that are equally near. -/
def onGrid? (b : Binary) (tie : Tie) (grid : Int) : Option Numeral :=
  let (num, den) := b.ratio (-grid)
  let down : Numeral := ⟨num / den, grid⟩
  let up : Numeral := ⟨num / den + 1, grid⟩
  match b.readsBack down, b.readsBack up with
  | true, true =>
    match compare (2 * (num % den)) den, tie with
    | .lt, _ => some down
    | .gt, _ => some up
    | .eq, .upward => some up
    | .eq, .toEven => if down.digits % 2 = 0 then some down else some up
  | true, false => some down
  | false, true => some up
  | false, false => none

/-- The value itself as a decimal: `2^(-e)` is `5^e · 10^(-e)`. -/
def exactly (b : Binary) : Numeral :=
  ⟨b.significand * Nat.pow 2 b.exponent.toNat * Nat.pow 5 (-b.exponent).toNat,
    min b.exponent 0⟩

/-- The shortest decimal that `readsBack`, without trailing zeros. Seventeen
digits are always enough; `exactly` stands behind them. Zero is the single digit
zero. -/
def shortest (b : Binary) (tie : Tie) : Numeral :=
  if b.significand = 0 then ⟨0, 0⟩
  else
    let found := (List.range 17).findSome? fun (n : Nat) =>
      b.onGrid? tie (b.leading - (n : Int))
    (found.getD b.exactly).strip 800

end Binary

end ReachMixture.Decimal
