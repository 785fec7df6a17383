import CertPress.Text.Ascii
import CertPress.Text.Pieces

/-!
# UUIDs

Identifiers of 128 bits.  They are written in hyphenated groups of small
hexadecimal digits, and read in either case also without hyphens, in braces, or
as a URN.
-/

namespace CertPress

/-- An identifier. -/
structure Uuid where
  bits : BitVec 128
  deriving DecidableEq, Repr, Inhabited

namespace Uuid

/-- The identifier of zeros. -/
def nil : Uuid := ⟨0⟩

/-- The written form, in groups of 8, 4, 4, 4 and 12 digits. -/
def chars (id : Uuid) : List Char :=
  let digits := Text.hexPadded 32 id.bits.toNat
  let group (start size : Nat) := (digits.drop start).take size
  group 0 8 ++ '-' :: group 8 4 ++ '-' :: group 12 4 ++ '-' :: group 16 4 ++
    '-' :: group 20 12

/-- The written form as a string. -/
def text (id : Uuid) : String := String.ofList id.chars

/-- The identifier of 32 hexadecimal digits. -/
def ofDigits? (digits : List Char) : Option Uuid :=
  if digits.length = 32 then
    (Text.hexadecimal? digits).map fun number => ⟨BitVec.ofNat 128 number⟩
  else none

/-- The identifier of five groups with hyphens between them. -/
def ofGroups? (chars : List Char) : Option Uuid :=
  let groups := Text.split '-' chars
  if groups.map List.length = [8, 4, 4, 4, 12] then ofDigits? groups.flatten
  else none

/-- The start of the URN form. -/
def urn : List Char := ['u', 'r', 'n', ':', 'u', 'u', 'i', 'd', ':']

/-- Read an identifier in one of its forms: digits only, groups, groups in
braces, or a URN with groups. -/
def ofChars? (chars : List Char) : Option Uuid :=
  match Text.after? urn chars with
  | some groups => ofGroups? groups
  | none =>
      match chars with
      | '\x7b' :: rest =>
          if rest.getLast? = some '\x7d' then ofGroups? rest.dropLast else none
      | _ => if chars.length = 32 then ofDigits? chars else ofGroups? chars

/-- Read an identifier in one of its forms. -/
def ofString? (text : String) : Option Uuid := ofChars? text.toList

end Uuid

end CertPress
