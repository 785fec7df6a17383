/-!
# The ASCII range

Case, digits and hexadecimal notation over the 128 ASCII characters.  All other
characters are left alone by the case maps and are no digits.
-/

namespace CertPress.Text

/-- ASCII capitals become small letters; every other character is kept. -/
def lowerAscii (text : String) : String :=
  String.ofList (text.toList.map Char.toLower)

/-- Equality up to the case of ASCII letters. -/
def equalIgnoringCase (left right : List Char) : Bool :=
  left.map Char.toLower == right.map Char.toLower

/-- The value of an ASCII decimal digit. -/
def digitValue? (char : Char) : Option Nat :=
  if char.isDigit then some (char.toNat - '0'.toNat) else none

/-- The value of an ASCII hexadecimal digit of either case. -/
def hexValue? (char : Char) : Option Nat :=
  if char.isDigit then some (char.toNat - '0'.toNat)
  else if 'a' ≤ char ∧ char ≤ 'f' then some (char.toNat - 'a'.toNat + 10)
  else if 'A' ≤ char ∧ char ≤ 'F' then some (char.toNat - 'A'.toNat + 10)
  else none

/-- Whether a character is an ASCII hexadecimal digit. -/
def isHexDigit (char : Char) : Bool :=
  (hexValue? char).isSome

/-- The small hexadecimal digit of a value below sixteen. -/
def hexDigit (value : Nat) : Char :=
  if value < 10 then Char.ofNat ('0'.toNat + value)
  else Char.ofNat ('a'.toNat + (value - 10))

/-- The capital hexadecimal digit of a value below sixteen. -/
def hexDigitUpper (value : Nat) : Char :=
  (hexDigit value).toUpper

/-- A number in hexadecimal with exactly `width` small digits; higher digits
are dropped. -/
def hexPadded (width value : Nat) : List Char :=
  match width with
  | 0 => []
  | width + 1 => hexPadded width (value / 16) ++ [hexDigit (value % 16)]

/-- A number in decimal with at least `width` digits. -/
def decimalPadded (width value : Nat) : List Char :=
  let digits := (Nat.toDigits 10 value)
  List.replicate (width - digits.length) '0' ++ digits

/-- The number that a run of decimal digits denotes; none for the empty run and
for a run that holds another character. -/
def decimal? (chars : List Char) : Option Nat :=
  if chars.isEmpty then none
  else chars.foldlM (fun number char => (digitValue? char).map (number * 10 + ·)) 0

/-- The number that decimal digits with an optional sign denote. -/
def integer? (chars : List Char) : Option Int :=
  match chars with
  | '-' :: digits => (decimal? digits).map fun number => -Int.ofNat number
  | '+' :: digits => (decimal? digits).map Int.ofNat
  | digits => (decimal? digits).map Int.ofNat

/-- The number that a run of hexadecimal digits denotes; none for the empty run
and for a run that holds another character. -/
def hexadecimal? (chars : List Char) : Option Nat :=
  if chars.isEmpty then none
  else chars.foldlM (fun number char => (hexValue? char).map (number * 16 + ·)) 0

/-- Why text is not an unsigned number of a given size. -/
inductive NumberFault where
  | empty
  | invalidDigit
  | tooLarge
  deriving DecidableEq, Repr

/-- Continue a number below `bound` with more decimal digits.  The first fault
from the left is reported. -/
def continueUnsigned (bound number : Nat) : List Char → Except NumberFault Nat
  | [] => .ok number
  | char :: rest =>
      match digitValue? char with
      | none => .error .invalidDigit
      | some digit =>
          if number * 10 + digit < bound then
            continueUnsigned bound (number * 10 + digit) rest
          else .error .tooLarge

/-- An unsigned number below `bound`: an optional plus sign and at least one
decimal digit. -/
def unsigned (bound : Nat) (chars : List Char) : Except NumberFault Nat :=
  match chars with
  | [] => .error .empty
  | ['+'] => .error .invalidDigit
  | '+' :: rest => continueUnsigned bound 0 rest
  | _ => continueUnsigned bound 0 chars

/-- The wording of a fault. -/
def NumberFault.message : NumberFault → String
  | .empty => "cannot parse integer from empty string"
  | .invalidDigit => "invalid digit found in string"
  | .tooLarge => "number too large to fit in target type"

/-- The small form of an ASCII character belongs to ASCII. -/
theorem toNat_toLower_lt {char : Char} (small : char.toNat < 0x80) :
    char.toLower.toNat < 0x80 := by
  unfold Char.toLower
  split
  next isCapital =>
    have bound : char.toNat ≤ 90 := UInt32.le_iff_toNat_le.mp isCapital.2
    show (char.val + 32).toNat < 0x80
    rw [UInt32.toNat_add]
    show (char.toNat + 32) % 4294967296 < 128
    omega
  next => exact small

end CertPress.Text
