import CertPress.Text.Utf8

/-!
# Reading UTF-8 that was written

The bytes of a character read as that character, whatever follows them, so the
bytes of a text read as the text.
-/

namespace CertPress.Text

theorem toNat_ofNat {value : Nat} (fits : value < 256) : (UInt8.ofNat value).toNat = value :=
  UInt8.toNat_ofNat_of_lt' fits

theorem readContinuation_cons {byte : UInt8} (fits : 0x80 ≤ byte.toNat ∧ byte.toNat ≤ 0xBF)
    (code count : Nat) (rest : Bytes) :
    readContinuation code (count + 1) (byte :: rest) =
      readContinuation (code * 64 + (byte.toNat - 0x80)) count rest := by
  rw [readContinuation, if_pos fits]

theorem decodeNext_cons {first second : UInt8} {low high count : Nat}
    (long : 0x80 ≤ first.toNat) (range : secondRange? first.toNat = some (low, high, count))
    (fits : low ≤ second.toNat ∧ second.toNat ≤ high) (rest : Bytes) :
    decodeNext first (second :: rest) =
      readContinuation (firstBits first.toNat * 64 + (second.toNat - 0x80)) count rest := by
  unfold decodeNext
  rw [if_neg (by omega), range]
  exact if_pos fits

/-- The first two bytes of a sequence of three leave out the codes of shorter
sequences and of surrogates. -/
theorem secondRange?_three {first : Nat} (least : 0xE0 ≤ first) (most : first ≤ 0xEF) :
    secondRange? first =
      some (if first = 0xE0 then 0xA0 else 0x80, if first = 0xED then 0x9F else 0xBF, 1) := by
  unfold secondRange?
  repeat' split
  all_goals first | rfl | omega

/-- The first two bytes of a sequence of four leave out the codes of shorter
sequences and those that are too large. -/
theorem secondRange?_four {first : Nat} (least : 0xF0 ≤ first) (most : first ≤ 0xF4) :
    secondRange? first =
      some (if first = 0xF0 then 0x90 else 0x80, if first = 0xF4 then 0x8F else 0xBF, 2) := by
  unfold secondRange?
  repeat' split
  all_goals first | rfl | omega

section Lengths

variable {code : Nat} (rest : Bytes)

theorem decodeNext_one (most : code ≤ 0x7F) :
    decodeNext (.ofNat code) rest = (some (Char.ofNat code), rest) := by
  have first : (UInt8.ofNat code).toNat = code := toNat_ofNat (by omega)
  unfold decodeNext
  rw [first, if_pos (by omega)]

theorem decodeNext_two (least : 0x80 ≤ code) (most : code ≤ 0x7FF) :
    decodeNext (.ofNat (code / 64 % 0x20 + 0xC0)) (.ofNat (code % 0x40 + 0x80) :: rest) =
      (some (Char.ofNat code), rest) := by
  have first : (UInt8.ofNat (code / 64 % 0x20 + 0xC0)).toNat = code / 64 + 0xC0 := by
    rw [toNat_ofNat (by omega)]
    omega
  have second : (UInt8.ofNat (code % 0x40 + 0x80)).toNat = code % 0x40 + 0x80 :=
    toNat_ofNat (by omega)
  have range : secondRange? (code / 64 + 0xC0) = some (0x80, 0xBF, 0) := by
    rw [secondRange?, if_pos (by omega)]
  have bits : firstBits (code / 64 + 0xC0) = code / 64 := by
    rw [firstBits, if_pos (by omega)]
    omega
  rw [decodeNext_cons (by omega) (by rw [first, range]) (by omega), first, second, bits,
    readContinuation]
  have code_eq : code / 64 * 64 + (code % 0x40 + 0x80 - 0x80) = code := by omega
  rw [code_eq]

theorem decodeNext_three (least : 0x800 ≤ code) (most : code ≤ 0xFFFF)
    (valid : code < 0xD800 ∨ 0xDFFF < code) :
    decodeNext (.ofNat (code / 4096 % 0x10 + 0xE0))
        (.ofNat (code / 64 % 0x40 + 0x80) :: .ofNat (code % 0x40 + 0x80) :: rest) =
      (some (Char.ofNat code), rest) := by
  have first : (UInt8.ofNat (code / 4096 % 0x10 + 0xE0)).toNat = code / 4096 + 0xE0 := by
    rw [toNat_ofNat (by omega)]
    omega
  have second : (UInt8.ofNat (code / 64 % 0x40 + 0x80)).toNat = code / 64 % 0x40 + 0x80 :=
    toNat_ofNat (by omega)
  have third : (UInt8.ofNat (code % 0x40 + 0x80)).toNat = code % 0x40 + 0x80 :=
    toNat_ofNat (by omega)
  have range := @secondRange?_three (code / 4096 + 0xE0) (by omega) (by omega)
  have bits : firstBits (code / 4096 + 0xE0) = code / 4096 := by
    rw [firstBits, if_neg (by omega), if_pos (by omega)]
    omega
  have fits : (if code / 4096 + 0xE0 = 0xE0 then 0xA0 else 0x80) ≤ code / 64 % 0x40 + 0x80 ∧
      code / 64 % 0x40 + 0x80 ≤ (if code / 4096 + 0xE0 = 0xED then 0x9F else 0xBF) := by
    split <;> split <;> omega
  rw [decodeNext_cons (by omega) (by rw [first, range]) (by rwa [second]), first, second, bits,
    readContinuation_cons (by omega), third, readContinuation]
  have code_eq : (code / 4096 * 64 + (code / 64 % 0x40 + 0x80 - 0x80)) * 64 +
      (code % 0x40 + 0x80 - 0x80) = code := by omega
  rw [code_eq]

theorem decodeNext_four (least : 0x10000 ≤ code) (most : code < 0x110000) :
    decodeNext (.ofNat (code / 262144 % 0x08 + 0xF0))
        (.ofNat (code / 4096 % 0x40 + 0x80) :: .ofNat (code / 64 % 0x40 + 0x80) ::
          .ofNat (code % 0x40 + 0x80) :: rest) =
      (some (Char.ofNat code), rest) := by
  have first : (UInt8.ofNat (code / 262144 % 0x08 + 0xF0)).toNat = code / 262144 + 0xF0 := by
    rw [toNat_ofNat (by omega)]
    omega
  have second : (UInt8.ofNat (code / 4096 % 0x40 + 0x80)).toNat = code / 4096 % 0x40 + 0x80 :=
    toNat_ofNat (by omega)
  have third : (UInt8.ofNat (code / 64 % 0x40 + 0x80)).toNat = code / 64 % 0x40 + 0x80 :=
    toNat_ofNat (by omega)
  have fourth : (UInt8.ofNat (code % 0x40 + 0x80)).toNat = code % 0x40 + 0x80 :=
    toNat_ofNat (by omega)
  have range := @secondRange?_four (code / 262144 + 0xF0) (by omega) (by omega)
  have bits : firstBits (code / 262144 + 0xF0) = code / 262144 := by
    rw [firstBits, if_neg (by omega), if_neg (by omega)]
    omega
  have fits : (if code / 262144 + 0xF0 = 0xF0 then 0x90 else 0x80) ≤
        code / 4096 % 0x40 + 0x80 ∧
      code / 4096 % 0x40 + 0x80 ≤ (if code / 262144 + 0xF0 = 0xF4 then 0x8F else 0xBF) := by
    split <;> split <;> omega
  rw [decodeNext_cons (by omega) (by rw [first, range]) (by rwa [second]), first, second, bits,
    readContinuation_cons (by omega), third, readContinuation_cons (by omega), fourth,
    readContinuation]
  have code_eq : ((code / 262144 * 64 + (code / 4096 % 0x40 + 0x80 - 0x80)) * 64 +
      (code / 64 % 0x40 + 0x80 - 0x80)) * 64 + (code % 0x40 + 0x80 - 0x80) = code := by omega
  rw [code_eq]

end Lengths

/-- The bytes of a character read as the character. -/
theorem decodeNext_utf8EncodeChar (char : Char) :
    ∃ first others, String.utf8EncodeChar char = first :: others ∧
      ∀ rest, decodeNext first (others ++ rest) = (some char, rest) := by
  have code_eq : Char.ofNat char.val.toNat = char := Char.ofNat_toNat char
  have valid : char.val.toNat < 0xD800 ∨ 0xDFFF < char.val.toNat ∧ char.val.toNat < 0x110000 :=
    char.valid
  unfold String.utf8EncodeChar
  dsimp only
  generalize char.val.toNat = code at code_eq valid
  subst code_eq
  split
  next one => exact ⟨_, _, rfl, fun rest => decodeNext_one rest one⟩
  next =>
    split
    next two => exact ⟨_, _, rfl, fun rest => decodeNext_two rest (by omega) two⟩
    next =>
      split
      next three =>
        exact ⟨_, _, rfl, fun rest => decodeNext_three rest (by omega) three (by omega)⟩
      next => exact ⟨_, _, rfl, fun rest => decodeNext_four rest (by omega) (by omega)⟩

/-- The bytes of a text read as its characters. -/
theorem decodeEach_encode (chars : List Char) : decodeEach (encode chars) = chars.map some := by
  induction chars with
  | nil => rw [encode, List.flatMap_nil, decodeEach, List.map_nil]
  | cons char rest hypothesis =>
      obtain ⟨first, others, bytes_eq, reads⟩ := decodeNext_utf8EncodeChar char
      rw [encode, List.flatMap_cons, ← encode, bytes_eq, List.cons_append, decodeEach,
        reads (encode rest), hypothesis, List.map_cons]

@[simp] theorem decode?_encode (chars : List Char) : decode? (encode chars) = some chars := by
  rw [decode?, decodeEach_encode]
  induction chars with
  | nil => rfl
  | cons char rest hypothesis => simp [hypothesis]

@[simp] theorem decodeLossy_encode (chars : List Char) : decodeLossy (encode chars) = chars := by
  simp [decodeLossy, decodeEach_encode, Function.comp_def]

end CertPress.Text
