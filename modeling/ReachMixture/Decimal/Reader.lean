/-!
# Reading numbers

A number is an optional sign, then digits with an optional point and an optional
exponent, or one of the words for infinity and for no number in any case. At
least one digit must stand on one side of the point. The value is the nearest
floating-point number; too large a number is infinite, too small a one is zero.

- `Literal`, `Literal.read?`: a number as it stands in a text.
- `Literal.toFloat`, `Literal.toBits`: its value.
-/

namespace ReachMixture.Decimal

/-- The sign in front of a text, `true` for minus, and the rest. -/
def splitSign : List Char → Bool × List Char
  | '-' :: rest => (true, rest)
  | '+' :: rest => (false, rest)
  | text => (false, text)

/-- The number that a digit stands for: its distance from `'0'`. -/
def digitValue (c : Char) : Nat := c.toNat - '0'.toNat

/-- The natural number that `digits` stand for. The list is halved `halvings`
times before it is read one by one: large numbers are quicker to multiply with
each other than with ten. -/
def digitsValueBy : (halvings : Nat) → List Char → Nat
  | 0, digits => digits.foldl (fun n c => 10 * n + digitValue c) 0
  | halvings + 1, digits =>
    let low := digits.length / 2
    let (high, rest) := digits.splitAt (digits.length - low)
    digitsValueBy halvings high * Nat.pow 10 low + digitsValueBy halvings rest

/-- `digitsValueBy` with a number of halvings that leaves parts of about 32
digits. -/
def digitsValue (digits : List Char) : Nat :=
  digitsValueBy (Nat.log2 (digits.length / 32)) digits

/-- The number of a nonempty run of digits; `none` for any other text. -/
def wholeNumber? (text : List Char) : Option Nat :=
  if !text.isEmpty && text.all Char.isDigit then some (digitsValue text) else none

/-- The exponent that `digits` stand for. Digits behind a number of 65536 or
more do not count. -/
def exponentValue (digits : List Char) : Nat :=
  digits.foldl (fun n c => if n < 65536 then 10 * n + digitValue c else n) 0

/-- The exponent behind the digits of a number: nothing, or `e`, an optional
sign and digits. -/
def exponent? : List Char → Option Int
  | [] => some 0
  | mark :: rest =>
    if mark = 'e' ∨ mark = 'E' then
      let (negative, digits) := splitSign rest
      if !digits.isEmpty && digits.all Char.isDigit then
        some (if negative then -(exponentValue digits : Int)
              else (exponentValue digits : Int))
      else none
    else none

/-- The digits before the point, those behind it, and the rest of the text. -/
def splitPoint (text : List Char) : List Char × List Char × List Char :=
  let whole := text.takeWhile Char.isDigit
  match text.dropWhile Char.isDigit with
  | '.' :: rest => (whole, rest.takeWhile Char.isDigit, rest.dropWhile Char.isDigit)
  | rest => (whole, [], rest)

/-- The absolute value of a number in a text. -/
inductive Size where
  /-- No number. -/
  | undefined
  /-- Larger than every number. -/
  | infinite
  /-- `digits · 10^exponent`. -/
  | finite (digits : Nat) (exponent : Int)
deriving DecidableEq

/-- A number as it stands in a text. Every `Size` has a sign, zero and the
undefined number too. -/
structure Literal where
  /-- A minus sign stands in front. -/
  negative : Bool
  /-- What stands behind the sign. -/
  size : Size
deriving DecidableEq

/-- The size of a text without a sign: `inf`, `infinity` or `nan` in any case,
or digits with an optional point and exponent. -/
def Size.read? (text : List Char) : Option Size :=
  let word := String.ofList (text.map Char.toLower)
  if word = "inf" ∨ word = "infinity" then some .infinite
  else if word = "nan" then some .undefined
  else
    let (whole, fraction, rest) := splitPoint text
    if whole.isEmpty && fraction.isEmpty then none
    else (exponent? rest).map fun e =>
      .finite (digitsValue (whole ++ fraction)) (e - fraction.length)

/-- The literal of a text: a sign and a `Size`. -/
def Literal.read? (text : List Char) : Option Literal :=
  let (negative, rest) := splitSign text
  (Size.read? rest).map fun size => ⟨negative, size⟩

/-- The binary64 number nearest to `digits · 10^exponent`. Values outside of
`10^-400` to `10^400` need no arithmetic; the binary logarithm of `digits` tells
well enough where they are. -/
def nearest (digits : Nat) (exponent : Int) : Float :=
  let size := (Nat.log2 digits * 30103 / 100000 : Nat) + exponent
  if digits = 0 || size < -400 then 0.0
  else if 400 < size then 1.0 / 0.0
  else if exponent < 0 then Float.ofScientific digits true exponent.natAbs
  else Float.ofScientific digits false exponent.natAbs

/-- The binary64 number of a size. -/
def Size.toFloat : Size → Float
  | .undefined => 0.0 / 0.0
  | .infinite => 1.0 / 0.0
  | .finite digits exponent => nearest digits exponent

/-- The binary64 number of a literal. It does not tell undefined numbers with
and without a minus sign apart. -/
def Literal.toFloat (l : Literal) : Float :=
  if l.negative then -l.size.toFloat else l.size.toFloat

/-- The 64 bits of a literal, among them the sign, of undefined numbers too. -/
def Literal.toBits (l : Literal) : UInt64 :=
  if l.negative then l.size.toFloat.toBits ||| 0x8000000000000000
  else l.size.toFloat.toBits

end ReachMixture.Decimal
