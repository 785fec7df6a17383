import CertPress.Decimal.Double
import CertPress.Text.Ascii

/-!
# Numbers of JSON

A number literal in the parts that the grammar gives it, the number it stands
for, and the text a number is written as.  An integer literal within the signed
and unsigned 64-bit ranges is an integer; every other literal is a double.
-/

namespace CertPress.Json

open Decimal (Double)

/-- A number as it is written: a sign, the digits before the point, the digits
after it (none without a point), and the exponent with its sign. -/
structure NumberLiteral where
  negative : Bool
  whole : List Char
  fraction : Option (List Char)
  exponent : Option (Bool × List Char)
  deriving DecidableEq, Repr, Inhabited

/-- A number: an integer, or a double. -/
inductive Number where
  | integer (value : Int)
  | double (value : Double)
  deriving DecidableEq, Repr, Inhabited

namespace Number

/-- The bound of the unsigned integers. -/
def unsignedBound : Nat := Nat.pow 2 64

/-- The bound of the exponents that are counted. -/
def exponentBound : Nat := Nat.pow 2 31

/-- A literal's digits as a significand below `unsignedBound`, with the number
of digits that were left out and those taken. -/
structure Significand where
  value : Nat
  taken : Nat
  rest : List Char
  deriving Repr

/-- Take digits into a significand as long as it stays below
`unsignedBound`. -/
def takeDigits (value taken : Nat) : List Char → Significand
  | [] => ⟨value, taken, []⟩
  | char :: rest =>
      let next := value * 10 + (char.toNat - '0'.toNat)
      if next < unsignedBound then takeDigits next (taken + 1) rest
      else ⟨value, taken, char :: rest⟩

/-- The double nearest to a power of ten. -/
def powerOfTen (exponent : Nat) : Option Double :=
  Double.ofRatio (Nat.pow 10 exponent) 1

/-- Divide by `10 ^ exponent`, at most `10 ^ 308` at a time. -/
def divideByPower (number : Double) (exponent : Nat) : (fuel : Nat) → Option Double
  | 0 => some number
  | fuel + 1 =>
      if exponent ≤ 308 then (powerOfTen exponent).bind number.divAbs
      else if number.isZero then some number
      else ((powerOfTen 308).bind number.divAbs).bind
        (divideByPower · (exponent - 308) fuel)

/-- The double for `significand · 10^exponent`: the significand is rounded,
then multiplied or divided by a rounded power of ten.  None where the result
is too large. -/
def scale (significand : Nat) (exponent : Int) : Option Double :=
  (Double.ofRatio significand 1).bind fun number =>
    if 0 ≤ exponent then
      if exponent.toNat ≤ 308 then (powerOfTen exponent.toNat).bind number.mulAbs
      else if number.isZero then some number
      else none
    else divideByPower number (-exponent).toNat ((-exponent).toNat / 308 + 2)

/-- The exponent that a literal gives, or the sign alone where it is out of
range. -/
def writtenExponent : Option (Bool × List Char) → Except Bool Int
  | none => .ok 0
  | some (negative, digits) =>
      match Text.continueUnsigned exponentBound 0 digits with
      | .ok value => .ok (if negative then -(value : Int) else value)
      | .error _ => .error negative

/-- The magnitude that a literal with a point, an exponent or too many digits
stands for; none where it is too large. -/
def magnitude (literal : NumberLiteral) : Option Double :=
  let whole := takeDigits 0 0 literal.whole
  let fraction := takeDigits whole.value 0 (literal.fraction.getD [])
  let base := (whole.rest.length : Int) - fraction.taken
  match writtenExponent literal.exponent with
  | .ok exponent => scale fraction.value (base + exponent)
  | .error negative =>
      if fraction.value = 0 || negative then some (Double.zero false) else none

/-- The number that a literal stands for; none where it is too large for a
double. -/
def ofLiteral (literal : NumberLiteral) : Option Number :=
  let whole := takeDigits 0 0 literal.whole
  let signed (number : Double) := Number.double { number with negative := literal.negative }
  if literal.fraction.isNone && literal.exponent.isNone && whole.rest.isEmpty then
    if literal.negative then
      if 0 < whole.value ∧ whole.value ≤ Nat.pow 2 63 then some (.integer (-(whole.value : Int)))
      else (Double.ofRatio whole.value 1).map signed
    else some (.integer whole.value)
  else (magnitude literal).map signed

/-- The digits of a decimal with a point, in positional notation. -/
def positional (digits : List Char) (exponent : Int) : List Char :=
  let size : Int := digits.length
  if 0 ≤ exponent then
    digits ++ List.replicate exponent.toNat '0' ++ ['.', '0']
  else if 0 < size + exponent then
    let count := (size + exponent).toNat
    digits.take count ++ '.' :: digits.drop count
  else '0' :: '.' :: List.replicate (-(size + exponent)).toNat '0' ++ digits

/-- The digits of a decimal with one digit before the point and an
exponent. -/
def scientific (digits : List Char) (leading : Int) : List Char :=
  let mantissa := match digits with
    | first :: second :: rest => first :: '.' :: second :: rest
    | short => short
  let sign := if leading < 0 then '-' else '+'
  mantissa ++ 'e' :: sign :: Nat.toDigits 10 leading.natAbs

/-- A double with the fewest digits that read back, in positional notation when
the exponent of its leading digit is from -5 to 15. -/
def doubleChars (number : Double) : List Char :=
  let decimal := number.shortest
  let digits := Nat.toDigits 10 decimal.digits
  let leading := decimal.exponent + digits.length - 1
  let unsigned :=
    if -5 ≤ leading ∧ leading ≤ 15 then positional digits decimal.exponent
    else scientific digits leading
  if number.negative then '-' :: unsigned else unsigned

/-- The text of a number. -/
def chars : Number → List Char
  | .integer value =>
      if value < 0 then '-' :: Nat.toDigits 10 value.natAbs
      else Nat.toDigits 10 value.natAbs
  | .double value => doubleChars value

/-- Whether the number is zero. -/
def isZero : Number → Bool
  | .integer value => value == 0
  | .double value => value.isZero

end Number

end CertPress.Json
