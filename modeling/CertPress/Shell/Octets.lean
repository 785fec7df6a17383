import CertPress.Files.Path
import CertPress.Text.Utf8

/-!
# Bytes as characters

A script works on bytes.  Inside a shell every byte is kept as the character
with its code, so that a text of the shell has as many characters as bytes.
Paths and the texts of the world outside are Unicode.
-/

namespace CertPress.Shell

/-- The characters that stand for bytes. -/
def charsOf (bytes : Bytes) : List Char := bytes.map fun byte => Char.ofNat byte.toNat

/-- The bytes that characters stand for. -/
def octets (chars : List Char) : Bytes := chars.map fun char => UInt8.ofNat char.toNat

/-- A text from outside as the shell keeps it. -/
def inward (text : String) : String := String.ofList (charsOf (bytesOf text))

/-- A text of the shell as it is seen from outside. -/
def outward (text : String) : String :=
  String.ofList (Text.decodeLossy (octets text.toList))

/-- The path that a text of the shell names. -/
def pathOf (text : String) : FilePath := ⟨outward text⟩

/-- The decimal digits of a number. -/
def decimal (number : Nat) : String := String.ofList (Nat.toDigits 10 number)

/-- The decimal form of a number with a sign. -/
def signedDecimal (number : Int) : String :=
  if number < 0 then "-" ++ decimal number.natAbs else decimal number.natAbs

/-- No byte is lost in the characters that stand for it. -/
@[simp] theorem octets_charsOf (bytes : Bytes) : octets (charsOf bytes) = bytes := by
  induction bytes with
  | nil => rfl
  | cons byte rest hypothesis =>
      have small : byte.toNat < 256 := byte.toNat_lt
      have valid : byte.toNat.isValidChar := .inl (by omega)
      have same : (Char.ofNat byte.toNat).toNat = byte.toNat := by
        rw [Char.ofNat, dif_pos valid]
        exact UInt32.toNat_ofNatLT ..
      simp only [octets, charsOf, List.map_cons, List.cons.injEq] at hypothesis ⊢
      exact ⟨by rw [same, UInt8.ofNat_toNat], hypothesis⟩

/-- A text of bytes has one character for each of them. -/
@[simp] theorem length_charsOf (bytes : Bytes) : (charsOf bytes).length = bytes.length := by
  simp [charsOf]

end CertPress.Shell
