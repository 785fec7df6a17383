import CertPress.Text.Utf8

/-!
# Base64

The standard alphabet with padding.  Reading is strict: the text is a whole
number of groups of four, only the last group is padded, and the bits that
padding leaves over are zero.
-/

namespace CertPress.Base64

/-- The digit of a value below 64. -/
def digit (value : Nat) : Char :=
  if value < 26 then Char.ofNat ('A'.toNat + value)
  else if value < 52 then Char.ofNat ('a'.toNat + (value - 26))
  else if value < 62 then Char.ofNat ('0'.toNat + (value - 52))
  else if value = 62 then '+'
  else '/'

/-- The value of a digit. -/
def value? (char : Char) : Option Nat :=
  if 'A' ≤ char ∧ char ≤ 'Z' then some (char.toNat - 'A'.toNat)
  else if 'a' ≤ char ∧ char ≤ 'z' then some (char.toNat - 'a'.toNat + 26)
  else if '0' ≤ char ∧ char ≤ '9' then some (char.toNat - '0'.toNat + 52)
  else if char = '+' then some 62
  else if char = '/' then some 63
  else none

/-- The text of a byte sequence. -/
def encode : Bytes → List Char
  | [] => []
  | [a] =>
      [digit (a.toNat / 4), digit (a.toNat % 4 * 16), '=', '=']
  | [a, b] =>
      [digit (a.toNat / 4), digit (a.toNat % 4 * 16 + b.toNat / 16),
       digit (b.toNat % 16 * 4), '=']
  | a :: b :: c :: rest =>
      digit (a.toNat / 4) :: digit (a.toNat % 4 * 16 + b.toNat / 16) ::
        digit (b.toNat % 16 * 4 + c.toNat / 64) :: digit (c.toNat % 64) :: encode rest

/-- The bytes of a last group, which may be padded. -/
def decodeLast (a b c d : Char) : Option Bytes := do
  let first ← value? a
  let second ← value? b
  if c = '=' then
    if d = '=' ∧ second % 16 = 0 then return [UInt8.ofNat (first * 4 + second / 16)]
    else none
  else
    let third ← value? c
    if d = '=' then
      if third % 4 = 0 then
        return [UInt8.ofNat (first * 4 + second / 16),
          UInt8.ofNat (second % 16 * 16 + third / 4)]
      else none
    else
      let fourth ← value? d
      return [UInt8.ofNat (first * 4 + second / 16),
        UInt8.ofNat (second % 16 * 16 + third / 4), UInt8.ofNat (third % 4 * 64 + fourth)]

/-- The bytes that a text is the written form of. -/
def decode? : List Char → Option Bytes
  | [] => some []
  | [a, b, c, d] => decodeLast a b c d
  | a :: b :: c :: d :: rest => do
      let first ← value? a
      let second ← value? b
      let third ← value? c
      let fourth ← value? d
      let bytes ← decode? rest
      return UInt8.ofNat (first * 4 + second / 16) ::
        UInt8.ofNat (second % 16 * 16 + third / 4) ::
        UInt8.ofNat (third % 4 * 64 + fourth) :: bytes
  | _ => none

end CertPress.Base64
