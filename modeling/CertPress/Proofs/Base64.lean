import CertPress.Base64

/-!
# Reading Base64 that was written

Three bytes are written as four digits of six bits, and the four digits are read as the same
three bytes.  A last group of fewer bytes is padded, and its padding is read as nothing.
-/

namespace CertPress.Base64

variable {value : Nat}

theorem value?_digit (small : value < 64) : value? (digit value) = some value := by
  revert value
  decide

theorem digit_ne_padding (small : value < 64) : digit value ≠ '=' := by
  revert value
  decide

/-! ## The digits of a group -/

section Digits

variable (a b c : UInt8)

theorem first_lt : a.toNat / 4 < 64 := by
  have small := a.toNat_lt
  omega

theorem second_lt : a.toNat % 4 * 16 + b.toNat / 16 < 64 := by
  have small := b.toNat_lt
  omega

theorem third_lt : b.toNat % 16 * 4 + c.toNat / 64 < 64 := by
  have small := c.toNat_lt
  omega

/-- The first byte is read from the first two digits. -/
theorem first_eq :
    UInt8.ofNat (a.toNat / 4 * 4 + (a.toNat % 4 * 16 + b.toNat / 16) / 16) = a := by
  have small := b.toNat_lt
  have whole : a.toNat / 4 * 4 + (a.toNat % 4 * 16 + b.toNat / 16) / 16 = a.toNat := by omega
  rw [whole, UInt8.ofNat_toNat]

/-- The second byte is read from the second and the third digit. -/
theorem second_eq :
    UInt8.ofNat ((a.toNat % 4 * 16 + b.toNat / 16) % 16 * 16 +
      (b.toNat % 16 * 4 + c.toNat / 64) / 4) = b := by
  have small := b.toNat_lt
  have last := c.toNat_lt
  have whole : (a.toNat % 4 * 16 + b.toNat / 16) % 16 * 16 +
      (b.toNat % 16 * 4 + c.toNat / 64) / 4 = b.toNat := by omega
  rw [whole, UInt8.ofNat_toNat]

/-- The third byte is read from the last two digits. -/
theorem third_eq :
    UInt8.ofNat ((b.toNat % 16 * 4 + c.toNat / 64) % 4 * 64 + c.toNat % 64) = c := by
  have small := c.toNat_lt
  have whole : (b.toNat % 16 * 4 + c.toNat / 64) % 4 * 64 + c.toNat % 64 = c.toNat := by omega
  rw [whole, UInt8.ofNat_toNat]

end Digits

/-! ## Groups -/

theorem decodeLast_three (a b c : UInt8) :
    decodeLast (digit (a.toNat / 4)) (digit (a.toNat % 4 * 16 + b.toNat / 16))
      (digit (b.toNat % 16 * 4 + c.toNat / 64)) (digit (c.toNat % 64)) = some [a, b, c] := by
  have last : c.toNat % 64 < 64 := Nat.mod_lt _ (by decide)
  simp only [decodeLast, value?_digit (first_lt a), value?_digit (second_lt a b),
    value?_digit (third_lt b c), value?_digit last, if_neg (digit_ne_padding (third_lt b c)),
    if_neg (digit_ne_padding last), Option.bind_eq_bind, Option.bind_some, first_eq, second_eq,
    third_eq]
  rfl

/-- Two bytes leave two bits over, which are zero. -/
theorem decodeLast_two (a b : UInt8) :
    decodeLast (digit (a.toNat / 4)) (digit (a.toNat % 4 * 16 + b.toNat / 16))
      (digit (b.toNat % 16 * 4)) '=' = some [a, b] := by
  have third := third_lt b 0
  have second := second_eq a b 0
  have noBits : (b.toNat % 16 * 4) % 4 = 0 := Nat.mul_mod_left _ _
  rw [UInt8.toNat_zero, Nat.zero_div, Nat.add_zero] at third second
  simp only [decodeLast, value?_digit (first_lt a), value?_digit (second_lt a b),
    value?_digit third, if_neg (digit_ne_padding third), Option.bind_eq_bind, Option.bind_some,
    if_true, noBits, first_eq, second]
  rfl

/-- One byte leaves four bits over, which are zero. -/
theorem decodeLast_one (a : UInt8) :
    decodeLast (digit (a.toNat / 4)) (digit (a.toNat % 4 * 16)) '=' '=' = some [a] := by
  have second := second_lt a 0
  have first := first_eq a 0
  have noBits : (a.toNat % 4 * 16) % 16 = 0 := Nat.mul_mod_left _ _
  rw [UInt8.toNat_zero, Nat.zero_div, Nat.add_zero] at second first
  simp only [decodeLast, value?_digit (first_lt a), value?_digit second, Option.bind_eq_bind,
    Option.bind_some, if_true, noBits, and_self, first]
  rfl

/-- Only a group that is the last one may be padded. -/
theorem decode?_cons {a b c d : Char} {rest : List Char} (more : rest ≠ []) :
    decode? (a :: b :: c :: d :: rest) = (do
      let first ← value? a
      let second ← value? b
      let third ← value? c
      let fourth ← value? d
      let bytes ← decode? rest
      return UInt8.ofNat (first * 4 + second / 16) ::
        UInt8.ofNat (second % 16 * 16 + third / 4) ::
        UInt8.ofNat (third % 4 * 64 + fourth) :: bytes) := by
  obtain ⟨next, others, rfl⟩ := List.exists_cons_of_ne_nil more
  rw [decode?]
  simp

theorem encode_ne_nil {bytes : Bytes} (some : bytes ≠ []) : encode bytes ≠ [] := by
  match bytes with
  | [_] => simp [encode]
  | [_, _] => simp [encode]
  | _ :: _ :: _ :: _ => simp [encode]

/-- Bytes are found again in their written form. -/
theorem decode?_encode (bytes : Bytes) : decode? (encode bytes) = some bytes := by
  induction bytes using encode.induct with
  | case1 => rfl
  | case2 a => exact decodeLast_one a
  | case3 a b => exact decodeLast_two a b
  | case4 a b c rest hypothesis =>
      rw [encode]
      by_cases none : rest = []
      · subst none
        exact decodeLast_three a b c
      · have last : c.toNat % 64 < 64 := Nat.mod_lt _ (by decide)
        rw [decode?_cons (encode_ne_nil none)]
        simp only [value?_digit (first_lt a), value?_digit (second_lt a b),
          value?_digit (third_lt b c), value?_digit last, hypothesis, Option.bind_eq_bind,
          Option.bind_some, first_eq, second_eq, third_eq]
        rfl

end CertPress.Base64
