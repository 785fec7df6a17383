
/-!
# Double-precision numbers

A finite number of the binary64 format as an exact dyadic fraction, and the
rounding of a ratio of natural numbers to the nearest one.  Products and
quotients are those of the exact values, rounded once.

Among the decimals that read back as a given number, those with the fewest
digits are at most two neighbours on one decimal grid.  `shortest` finds the
one nearest to the number, with a tie going to the even digit.
-/

namespace CertPress.Decimal

/-! ## Rounding -/

/-- The finite number `± significand · 2^exponent / 2^1074`.  A number with a
positive exponent has a significand of exactly 53 bits, so each value has one
form for each sign. -/
structure Double where
  negative : Bool
  significand : Nat
  exponent : Nat
  deriving DecidableEq, Repr, Inhabited

namespace Double

/-- The number of binary places below the unit. -/
def places : Nat := 1074

/-- The largest exponent of a finite number. -/
def maxExponent : Nat := 2045

/-- Zero of either sign. -/
def zero (negative : Bool) : Double := ⟨negative, 0, 0⟩

/-- Whether the number is zero, of either sign. -/
def isZero (number : Double) : Bool := number.significand == 0

/-- The number with the opposite sign. -/
def neg (number : Double) : Double := { number with negative := !number.negative }

/-- The quotient rounded to the nearest natural number, a half to the even
neighbour. -/
def roundQuotient (numerator denominator : Nat) : Nat :=
  let quotient := numerator / denominator
  let twice := 2 * (numerator % denominator)
  if twice < denominator then quotient
  else if denominator < twice then quotient + 1
  else quotient + quotient % 2

/-- The number nearest to a ratio, a tie to the even significand; none where
it is too large to be finite. -/
def ofRatio (numerator denominator : Nat) : Option Double :=
  let scaled := numerator * Nat.pow 2 places
  let whole := scaled / denominator
  let exponent := Nat.log2 whole - 52
  let rounded := roundQuotient scaled (denominator * Nat.pow 2 exponent)
  let (significand, exponent) :=
    if rounded = Nat.pow 2 53 then (Nat.pow 2 52, exponent + 1) else (rounded, exponent)
  if exponent ≤ maxExponent then some ⟨false, significand, exponent⟩ else none

/-- The magnitude times `2 ^ places`, which is a natural number. -/
def units (number : Double) : Nat :=
  number.significand * Nat.pow 2 number.exponent

/-- The magnitude of a product, rounded. -/
def mulAbs (left right : Double) : Option Double :=
  ofRatio (left.units * right.units) (Nat.pow 2 (2 * places))

/-- The magnitude of a quotient, rounded. -/
def divAbs (left right : Double) : Option Double :=
  ofRatio left.units right.units

end Double

/-! ## The shortest decimal -/

/-- The decimal `digits · 10^exponent`, without trailing zeros unless it is
zero. -/
structure Expansion where
  digits : Nat
  exponent : Int
  deriving DecidableEq, Repr

namespace Double

/-- Four times the magnitude, in the units of `places`. -/
def center (number : Double) : Nat := 4 * number.units

/-- Four times the lower end of the interval that rounds to the number.  Below
a power of two the numbers lie closer together. -/
def lower (number : Double) : Nat :=
  if number.significand = Nat.pow 2 52 ∧ 0 < number.exponent then
    number.center - Nat.pow 2 number.exponent
  else number.center - 2 * Nat.pow 2 number.exponent

/-- Four times the upper end of the interval that rounds to the number. -/
def upper (number : Double) : Nat :=
  number.center + 2 * Nat.pow 2 number.exponent

/-- Whether the decimal `digits`, on a grid that scales the interval by `scale`
and has steps of `step`, reads back as the number.  The ends of the interval
do exactly when the significand is even. -/
def readsBack (number : Double) (scale step digits : Nat) : Bool :=
  let point := digits * step
  if number.significand % 2 = 0 then
    number.lower * scale ≤ point && point ≤ number.upper * scale
  else number.lower * scale < point && point < number.upper * scale

/-- The best decimal on the grid of `10 ^ exponent`, if one reads back. -/
def nearestOnGrid? (number : Double) (exponent : Int) : Option Nat :=
  let scale := Nat.pow 10 (-exponent).toNat
  let step := 4 * Nat.pow 2 places * Nat.pow 10 exponent.toNat
  let center := number.center * scale
  let below := center / step
  let belowFits := number.readsBack scale step below
  let aboveFits := number.readsBack scale step (below + 1)
  if belowFits && aboveFits then
    let belowGap := center - below * step
    let aboveGap := (below + 1) * step - center
    if belowGap < aboveGap then some below
    else if aboveGap < belowGap then some (below + 1)
    else some (below + below % 2)
  else if belowFits then some below
  else if aboveFits then some (below + 1)
  else none

/-- The exponent of the leading decimal digit of a number that is not zero. -/
def leadingExponent (number : Double) : Int :=
  let lifted := number.units * Nat.pow 10 400 / Nat.pow 2 places
  (Nat.toDigits 10 lifted).length - 401

/-- Move trailing zeros of the digits into the exponent. -/
def stripZeros (digits : Nat) (exponent : Int) : (fuel : Nat) → Expansion
  | 0 => ⟨digits, exponent⟩
  | fuel + 1 =>
      if digits % 10 = 0 ∧ digits ≠ 0 then stripZeros (digits / 10) (exponent + 1) fuel
      else ⟨digits, exponent⟩

/-- The shortest decimal from the grids of `count` to `count + fuel` digits. -/
def shortestFrom (number : Double) (leading : Int) (count : Nat) : (fuel : Nat) → Expansion
  | 0 => ⟨number.significand, 0⟩
  | fuel + 1 =>
      let exponent := leading + 1 - count
      match number.nearestOnGrid? exponent with
      | some digits => stripZeros digits exponent 20
      | none => shortestFrom number leading (count + 1) fuel

/-- The shortest decimal that reads back as the magnitude of the number.
Seventeen digits always do. -/
def shortest (number : Double) : Expansion :=
  if number.isZero then ⟨0, 0⟩
  else number.shortestFrom number.leadingExponent 1 18

end Double

end CertPress.Decimal
