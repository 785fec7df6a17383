import CertPress.Text.Ascii
import CertPress.Text.Utf8

/-!
# Percent encoding

A byte may be written as a percent sign and two hexadecimal digits.  `encode`
writes so every byte outside ASCII, every control character and the further
characters that a place in an address reserves; `decode` reads all such groups
and leaves a percent sign alone that starts none.
-/

namespace CertPress.Text.Percent

/-- The percent group of a byte, with capital digits. -/
def group (byte : UInt8) : List Char :=
  ['%', hexDigitUpper (byte.toNat / 16), hexDigitUpper (byte.toNat % 16)]

/-- Whether a character is written as it is, where `reserved` lists the
printable characters that are not. -/
def keeps (reserved : List Char) (char : Char) : Bool :=
  0x20 ≤ char.toNat && char.toNat < 0x7F && !reserved.contains char

/-- The written form of one character. -/
def encodeChar (reserved : List Char) (char : Char) : List Char :=
  if keeps reserved char then [char]
  else (String.utf8EncodeChar char).flatMap group

/-- The written form of a text, where `reserved` lists the printable characters
that are not written as they are. -/
def encode (reserved : List Char) (chars : List Char) : List Char :=
  chars.flatMap (encodeChar reserved)

/-- Undo the percent groups of a byte sequence. -/
def decodeBytes : Bytes → Bytes
  | [] => []
  | [byte] => [byte]
  | [byte, next] => [byte, next]
  | byte :: high :: low :: rest =>
      if byte = 0x25 then
        match hexValue? (Char.ofNat high.toNat), hexValue? (Char.ofNat low.toNat) with
        | some highValue, some lowValue =>
            UInt8.ofNat (highValue * 16 + lowValue) :: decodeBytes rest
        | _, _ => byte :: decodeBytes (high :: low :: rest)
      else byte :: decodeBytes (high :: low :: rest)

/-- The bytes that a text with percent groups stands for. -/
def decode (chars : List Char) : Bytes :=
  decodeBytes (Text.encode chars)

@[simp] theorem encode_nil (reserved : List Char) : encode reserved [] = [] := rfl

@[simp] theorem encode_append (reserved left right : List Char) :
    encode reserved (left ++ right) = encode reserved left ++ encode reserved right := by
  simp [encode]

end CertPress.Text.Percent
