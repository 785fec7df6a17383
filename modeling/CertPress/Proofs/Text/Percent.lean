import CertPress.Proofs.Text.Utf8
import CertPress.Text.Percent

/-!
# Reading percent groups that were written

A text is found again in its percent-encoded form, as long as percent signs of
its own are encoded.
-/

namespace CertPress.Text

@[simp] theorem encode_append (left right : List Char) :
    encode (left ++ right) = encode left ++ encode right := by
  simp [encode]

/-- An ASCII character is one byte. -/
theorem encode_cons_of_ascii {char : Char} (ascii : char.toNat ≤ 0x7F) (rest : List Char) :
    encode (char :: rest) = UInt8.ofNat char.toNat :: encode rest := by
  have one : String.utf8EncodeChar char = [UInt8.ofNat char.toNat] := by
    unfold String.utf8EncodeChar
    exact if_pos ascii
  rw [encode, List.flatMap_cons, one, List.singleton_append, encode]

namespace Percent

theorem hexDigitUpper_printable {value : Nat} (digit : value < 16) :
    0x20 ≤ (hexDigitUpper value).toNat ∧ (hexDigitUpper value).toNat < 0x7F := by
  revert value
  decide

theorem hexDigitUpper_ascii {value : Nat} (digit : value < 16) :
    (hexDigitUpper value).toNat ≤ 0x7F :=
  Nat.le_of_lt (hexDigitUpper_printable digit).2

theorem hexValue?_hexDigitUpper {value : Nat} (digit : value < 16) :
    hexValue? (hexDigitUpper value) = some value := by
  revert value
  decide

theorem decodeBytes_cons {byte : UInt8} (other : byte ≠ 0x25) (rest : Bytes) :
    decodeBytes (byte :: rest) = byte :: decodeBytes rest := by
  match rest with
  | [] => rfl
  | [_] => rfl
  | high :: low :: later => rw [decodeBytes, if_neg other]

/-- A byte is left alone unless a digit follows it and another one follows that. -/
theorem decodeBytes_cons_of_no_group {byte : UInt8} {rest : Bytes}
    (noGroup : ∀ high low later, rest = high :: low :: later →
      hexValue? (Char.ofNat high.toNat) = none ∨ hexValue? (Char.ofNat low.toNat) = none) :
    decodeBytes (byte :: rest) = byte :: decodeBytes rest := by
  match rest with
  | [] => rfl
  | [_] => rfl
  | high :: low :: later =>
      rw [decodeBytes]
      split
      next =>
        split
        next isHigh isLow => simpa [isHigh, isLow] using noGroup high low later rfl
        next => rfl
      next => rfl

/-- A slash belongs to no group, so what stands on its two sides is read apart. -/
theorem decodeBytes_append_slash (left right : Bytes) :
    decodeBytes (left ++ 0x2F :: right) = decodeBytes left ++ 0x2F :: decodeBytes right := by
  have noDigit : hexValue? (Char.ofNat (0x2F : UInt8).toNat) = none := by decide
  have slash : decodeBytes (0x2F :: right) = 0x2F :: decodeBytes right :=
    decodeBytes_cons (by decide) right
  fun_induction decodeBytes left with
  | case1 => exact slash
  | case2 byte =>
      rw [List.singleton_append, decodeBytes_cons_of_no_group, slash]
      · rfl
      · rintro high low later ⟨⟩
        exact .inl noDigit
  | case3 byte next =>
      rw [List.cons_append, List.singleton_append, decodeBytes_cons_of_no_group,
        decodeBytes_cons_of_no_group, slash]
      · rfl
      · rintro high low later ⟨⟩
        exact .inl noDigit
      · rintro high low later ⟨⟩
        exact .inr noDigit
  | case4 high low rest highValue lowValue isHigh isLow hypothesis =>
      simp only [List.cons_append, decodeBytes, if_true, isHigh, isLow, hypothesis]
  | case5 high low rest noGroup hypothesis =>
      simp only [List.cons_append] at hypothesis ⊢
      rw [decodeBytes_cons_of_no_group, hypothesis]
      rintro _ _ _ ⟨⟩
      cases isHigh : hexValue? (Char.ofNat high.toNat) with
      | none => exact .inl rfl
      | some highValue =>
          cases isLow : hexValue? (Char.ofNat low.toNat) with
          | none => exact .inr rfl
          | some lowValue => exact (noGroup highValue lowValue isHigh isLow).elim
  | case6 byte high low rest other hypothesis =>
      simp only [List.cons_append] at hypothesis ⊢
      rw [decodeBytes_cons other, hypothesis]

/-- A group reads as the byte that it was written for. -/
theorem decodeBytes_group (byte : UInt8) (rest : Bytes) :
    decodeBytes (Text.encode (group byte) ++ rest) = byte :: decodeBytes rest := by
  have small : byte.toNat < 256 := byte.toNat_lt
  have high : byte.toNat / 16 < 16 := by omega
  have low : byte.toNat % 16 < 16 := by omega
  have code {value : Nat} (digit : value < 16) :
      Char.ofNat (UInt8.ofNat (hexDigitUpper value).toNat).toNat = hexDigitUpper value := by
    have ascii := hexDigitUpper_ascii digit
    rw [toNat_ofNat (by omega), Char.ofNat_toNat]
  rw [group, encode_cons_of_ascii (by decide), encode_cons_of_ascii (hexDigitUpper_ascii high),
    encode_cons_of_ascii (hexDigitUpper_ascii low)]
  show decodeBytes (0x25 :: _ :: _ :: rest) = _
  rw [decodeBytes, if_pos rfl]
  simp only [code high, code low, hexValue?_hexDigitUpper high, hexValue?_hexDigitUpper low]
  have whole : byte.toNat / 16 * 16 + byte.toNat % 16 = byte.toNat := by omega
  rw [whole, UInt8.ofNat_toNat]

theorem decodeBytes_groups (bytes rest : Bytes) :
    decodeBytes (Text.encode (bytes.flatMap group) ++ rest) = bytes ++ decodeBytes rest := by
  induction bytes with
  | nil => rfl
  | cons byte others hypothesis =>
      rw [List.flatMap_cons, Text.encode_append, List.append_assoc, decodeBytes_group, hypothesis,
        List.cons_append]

/-- A character that is written as it is is printable ASCII and not reserved. -/
theorem of_keeps {reserved : List Char} {char : Char} (kept : keeps reserved char) :
    char.toNat ≤ 0x7F ∧ char ∉ reserved := by
  simp only [keeps, Bool.and_eq_true, decide_eq_true_eq, Bool.not_eq_true',
    List.contains_eq_mem, decide_eq_false_iff_not] at kept
  exact ⟨by omega, kept.2⟩

theorem decodeBytes_encodeChar {reserved : List Char} (sign : '%' ∈ reserved) (char : Char)
    (rest : Bytes) :
    decodeBytes (Text.encode (encodeChar reserved char) ++ rest) =
      String.utf8EncodeChar char ++ decodeBytes rest := by
  rw [encodeChar]
  split
  next kept =>
    obtain ⟨ascii, free⟩ := of_keeps kept
    have other : UInt8.ofNat char.toNat ≠ 0x25 := by
      intro same
      have byte_eq : (UInt8.ofNat char.toNat).toNat = char.toNat := toNat_ofNat (by omega)
      have code : char.toNat = 0x25 := by
        rw [← byte_eq, same]
        rfl
      have percent : char = '%' := Char.toNat_inj.mp code
      exact free (percent ▸ sign)
    have bytes_eq : Text.encode [char] = String.utf8EncodeChar char := by simp [Text.encode]
    rw [← bytes_eq, encode_cons_of_ascii ascii]
    exact decodeBytes_cons other rest
  next => exact decodeBytes_groups _ rest

/-- The percent-encoded form of a text stands for the bytes of the text, whatever
follows it. -/
theorem decodeBytes_encode {reserved : List Char} (sign : '%' ∈ reserved) (chars : List Char)
    (rest : Bytes) :
    decodeBytes (Text.encode (encode reserved chars) ++ rest) =
      Text.encode chars ++ decodeBytes rest := by
  induction chars with
  | nil => rfl
  | cons char others hypothesis =>
      rw [encode, List.flatMap_cons, Text.encode_append, ← encode, List.append_assoc,
        decodeBytes_encodeChar sign, hypothesis, Text.encode, Text.encode, List.flatMap_cons,
        List.append_assoc]

/-- The percent-encoded form of a text stands for the bytes of the text. -/
theorem decode_encode {reserved : List Char} (sign : '%' ∈ reserved) (chars : List Char) :
    decode (encode reserved chars) = Text.encode chars := by
  simpa [decode, decodeBytes] using decodeBytes_encode sign chars []

/-- A text is decoded apart from what stands behind a slash. -/
theorem decode_append {left right : List Char} (slash : right.head? = some '/') :
    decode (left ++ right) = decode left ++ decode right := by
  obtain ⟨rest, rfl⟩ := List.head?_eq_some_iff.mp slash
  have byte : Text.encode ('/' :: rest) = 0x2F :: Text.encode rest :=
    encode_cons_of_ascii (by decide) rest
  rw [decode, decode, decode, Text.encode_append, byte, decodeBytes_append_slash,
    decodeBytes_cons (by decide)]

theorem decode_replicate (count : Nat) :
    decode (List.replicate count '/') = Text.encode (List.replicate count '/') := by
  induction count with
  | zero => rfl
  | succ count hypothesis =>
      have byte (rest : List Char) : Text.encode ('/' :: rest) = 0x2F :: Text.encode rest :=
        encode_cons_of_ascii (by decide) rest
      rw [List.replicate_succ, decode, byte, decodeBytes_cons (by decide), ← decode, hypothesis]

/-- A text is decoded apart from slashes at its end. -/
theorem decode_append_replicate (chars : List Char) (count : Nat) :
    decode (chars ++ List.replicate count '/') =
      decode chars ++ Text.encode (List.replicate count '/') := by
  cases count with
  | zero => simp [Text.encode]
  | succ count => rw [decode_append (by rfl), decode_replicate]

/-- A text is found again in its percent-encoded form. -/
theorem decodeLossy_decode_encode {reserved : List Char} (sign : '%' ∈ reserved)
    (chars : List Char) : decodeLossy (decode (encode reserved chars)) = chars := by
  rw [decode_encode sign, decodeLossy_encode]

/-- A character that is written comes from the text and is kept, or it belongs to a
group. -/
theorem of_mem_encode {reserved : List Char} {char : Char} {chars : List Char}
    (member : char ∈ encode reserved chars) :
    (char ∈ chars ∧ keeps reserved char) ∨ char = '%' ∨
      ∃ value < 16, char = hexDigitUpper value := by
  obtain ⟨source, inChars, inSource⟩ := List.mem_flatMap.mp member
  rw [encodeChar] at inSource
  split at inSource
  next kept =>
    obtain rfl := List.mem_singleton.mp inSource
    exact .inl ⟨inChars, kept⟩
  next =>
    obtain ⟨byte, -, inGroup⟩ := List.mem_flatMap.mp inSource
    have small : byte.toNat < 256 := byte.toNat_lt
    simp only [group, List.mem_cons, List.not_mem_nil, or_false] at inGroup
    rcases inGroup with sign | high | low
    · exact .inr (.inl sign)
    · exact .inr (.inr ⟨_, by omega, high⟩)
    · exact .inr (.inr ⟨_, by omega, low⟩)

/-- A character that takes no part in groups is written only where it stands in the
text and is kept. -/
theorem of_mem_encode_of_apart {reserved : List Char} {char : Char} {chars : List Char}
    (notSign : char ≠ '%') (notDigit : hexValue? char = none)
    (member : char ∈ encode reserved chars) : char ∈ chars ∧ keeps reserved char := by
  rcases of_mem_encode member with kept | sign | ⟨value, digit, rfl⟩
  · exact kept
  · exact absurd sign notSign
  · rw [hexValue?_hexDigitUpper digit] at notDigit
    exact absurd notDigit (by simp)

/-- A reserved character is not written, unless it takes part in groups. -/
theorem not_mem_encode {reserved : List Char} {char : Char} (isReserved : char ∈ reserved)
    (notSign : char ≠ '%') (notDigit : hexValue? char = none) (chars : List Char) :
    char ∉ encode reserved chars := fun member =>
  (of_keeps (of_mem_encode_of_apart notSign notDigit member).2).2 isReserved

/-- Whether no one of some characters takes part in groups. -/
def Apart (chars : List Char) : Prop :=
  ∀ char ∈ chars, char ≠ '%' ∧ hexValue? char = none

instance (chars : List Char) : Decidable (Apart chars) :=
  List.decidableBAll _ chars

/-- What was written with more characters reserved, is kept where fewer are, of which
none takes part in groups. -/
theorem keeps_of_mem_encode {reserved fewer : List Char} {char : Char} {chars : List Char}
    (covered : fewer ⊆ reserved) (apart : Apart fewer) (member : char ∈ encode reserved chars) :
    keeps fewer char := by
  have free : char ∉ fewer := fun inFewer =>
    not_mem_encode (covered inFewer) (apart _ inFewer).1 (apart _ inFewer).2 chars member
  have printable : 0x20 ≤ char.toNat ∧ char.toNat < 0x7F := by
    rcases of_mem_encode member with ⟨-, kept⟩ | rfl | ⟨value, digit, rfl⟩
    · simp only [keeps, Bool.and_eq_true, decide_eq_true_eq] at kept
      exact kept.1
    · decide
    · exact hexDigitUpper_printable digit
  simp [keeps, printable, free]

/-- A text of which every character is kept is written as it is. -/
theorem encode_eq_self {reserved chars : List Char} (kept : ∀ char ∈ chars, keeps reserved char) :
    encode reserved chars = chars := by
  induction chars with
  | nil => rfl
  | cons char rest hypothesis =>
      rw [encode, List.flatMap_cons, encodeChar, if_pos (kept char (.head _)), ← encode,
        hypothesis fun other inRest => kept other (.tail _ inRest)]
      rfl

/-- What was written is written again as it is, if nothing that is reserved takes part in
groups. -/
theorem encode_encode {reserved : List Char} (apart : Apart reserved) (chars : List Char) :
    encode reserved (encode reserved chars) = encode reserved chars :=
  encode_eq_self fun _ => keeps_of_mem_encode (List.Subset.refl _) apart

theorem encode_ne_nil (reserved : List Char) {chars : List Char} (filled : chars ≠ []) :
    encode reserved chars ≠ [] := by
  obtain ⟨char, rest, rfl⟩ := List.exists_cons_of_ne_nil filled
  rw [encode, List.flatMap_cons, encodeChar]
  split
  next => simp
  next =>
    obtain ⟨byte, others, bytes_eq⟩ :=
      List.exists_cons_of_ne_nil (String.utf8EncodeChar_ne_nil (c := char))
    simp [bytes_eq, group]

end Percent

end CertPress.Text
