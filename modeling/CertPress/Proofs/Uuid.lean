import CertPress.Proofs.Text.Pieces
import CertPress.Uuid
import Mathlib.Tactic.Ring

/-!
# Identifiers that were written

An identifier is read back from its written form, so two identifiers have two forms.
-/

namespace CertPress

namespace Text

theorem hexValue?_hexDigit {value : Nat} (digit : value < 16) :
    hexValue? (hexDigit value) = some value := by
  have all : ∀ value < 16, hexValue? (hexDigit value) = some value := by decide
  exact all value digit

@[simp] theorem length_hexPadded (width value : Nat) : (hexPadded width value).length = width := by
  induction width generalizing value with
  | zero => rfl
  | succ width hypothesis => simp [hexPadded, hypothesis]

theorem mem_hexPadded {width value : Nat} {char : Char} (member : char ∈ hexPadded width value) :
    ∃ digit < 16, char = hexDigit digit := by
  induction width generalizing value with
  | zero => cases member
  | succ width hypothesis =>
      rcases List.mem_append.mp member with inFront | last
      · exact hypothesis inFront
      · exact ⟨value % 16, Nat.mod_lt _ (by decide), List.mem_singleton.mp last⟩

/-- Digits are read behind those that were read before. -/
theorem foldlM_hexPadded (width value start : Nat) :
    (hexPadded width value).foldlM
        (fun number char => (hexValue? char).map (number * 16 + ·)) start =
      some (start * 16 ^ width + value % 16 ^ width) := by
  induction width generalizing value with
  | zero => simp [hexPadded, Nat.mod_one]
  | succ width hypothesis =>
      have digit : value % 16 < 16 := Nat.mod_lt _ (by decide)
      rw [hexPadded, List.foldlM_append, hypothesis]
      simp only [List.foldlM_cons, List.foldlM_nil, hexValue?_hexDigit digit, Option.map_some,
        Option.bind_eq_bind, Option.bind_some, Option.pure_def, Option.some.injEq]
      rw [Nat.pow_succ', Nat.mod_mul]
      ring

theorem hexadecimal?_hexPadded {width : Nat} (filled : width ≠ 0) (value : Nat) :
    hexadecimal? (hexPadded width value) = some (value % 16 ^ width) := by
  have notEmpty : (hexPadded width value).isEmpty = false := by
    rw [List.isEmpty_eq_false_iff, ← List.length_pos_iff, length_hexPadded]
    exact Nat.pos_of_ne_zero filled
  rw [hexadecimal?, notEmpty, if_neg Bool.false_ne_true, foldlM_hexPadded, Nat.zero_mul,
    Nat.zero_add]

end Text

namespace Uuid

/-- The digits of an identifier. -/
def digits (id : Uuid) : List Char := Text.hexPadded 32 id.bits.toNat

/-- The groups of digits that the written form has between its hyphens. -/
def groups (id : Uuid) : List (List Char) :=
  [(0, 8), (8, 4), (12, 4), (16, 4), (20, 12)].map fun (start, size) =>
    (id.digits.drop start).take size

theorem chars_eq (id : Uuid) : id.chars = Text.join '-' id.groups := by
  simp [chars, groups, digits, Text.join]

theorem isDigit_of_mem_groups {id : Uuid} {group : List Char} (member : group ∈ id.groups)
    {char : Char} (inGroup : char ∈ group) : ∃ digit < 16, char = Text.hexDigit digit := by
  obtain ⟨⟨start, size⟩, -, rfl⟩ := List.mem_map.mp member
  exact Text.mem_hexPadded (List.mem_of_mem_drop (List.mem_of_mem_take inGroup))

theorem mem_chars {id : Uuid} {char : Char} (member : char ∈ id.chars) :
    char = '-' ∨ ∃ digit < 16, char = Text.hexDigit digit := by
  rw [chars_eq] at member
  rcases Text.mem_join member with isHyphen | ⟨group, inGroups, inGroup⟩
  · exact .inl isHyphen
  · exact .inr (isDigit_of_mem_groups inGroups inGroup)

/-- Other characters do not occur in an identifier. -/
theorem not_mem_chars {char : Char} (notHyphen : char ≠ '-')
    (notDigit : ∀ digit < 16, char ≠ Text.hexDigit digit) (id : Uuid) : char ∉ id.chars := by
  intro member
  rcases mem_chars member with isHyphen | ⟨digit, small, isDigit⟩
  · exact notHyphen isHyphen
  · exact notDigit digit small isDigit

theorem length_digits (id : Uuid) : id.digits.length = 32 := Text.length_hexPadded _ _

theorem flatten_groups (id : Uuid) : id.groups.flatten = id.digits := by
  have whole : id.digits.take (8 + 4 + 4 + 4 + 12) = id.digits :=
    List.take_of_length_le id.length_digits.le
  rw [List.take_add, List.take_add, List.take_add, List.take_add] at whole
  simpa [groups] using whole

theorem length_groups (id : Uuid) : id.groups.map List.length = [8, 4, 4, 4, 12] := by
  simp [groups, digits]

theorem ofDigits?_digits (id : Uuid) : ofDigits? id.digits = some id := by
  have bound : id.bits.toNat % 16 ^ 32 = id.bits.toNat := Nat.mod_eq_of_lt id.bits.isLt
  rw [ofDigits?, if_pos id.length_digits, digits,
    Text.hexadecimal?_hexPadded (by decide), bound, Option.map_some, BitVec.ofNat_toNat,
    BitVec.setWidth_eq]

theorem ofGroups?_chars (id : Uuid) : ofGroups? id.chars = some id := by
  have free : ∀ group ∈ id.groups, '-' ∉ group := by
    intro group member hyphen
    obtain ⟨digit, small, isDigit⟩ := isDigit_of_mem_groups member hyphen
    have all : ∀ digit < 16, '-' ≠ Text.hexDigit digit := by decide
    exact all digit small isDigit
  have split : Text.split '-' id.chars = id.groups := by
    rw [chars_eq, Text.split_join (by simp [groups]) free]
  rw [ofGroups?, split, if_pos id.length_groups, flatten_groups, ofDigits?_digits]

/-- An identifier is read back from its written form. -/
theorem ofString?_text (id : Uuid) : ofString? id.text = some id := by
  have size : id.chars.length = 36 := by simp [chars]
  have first {start : Char} {rest : List Char} (chars : id.chars = start :: rest) :
      start ∈ id.chars := by
    rw [chars]
    exact .head rest
  have noUrn : Text.after? urn id.chars = none := by
    rw [Text.after?, if_neg]
    intro isUrn
    obtain ⟨rest, chars⟩ := List.isPrefixOf_iff_prefix.mp isUrn
    exact not_mem_chars (by decide) (by decide) id (first chars.symm)
  have noBrace : ∀ rest, id.chars ≠ '\x7b' :: rest := fun rest chars =>
    not_mem_chars (by decide) (by decide) id (first chars)
  rw [ofString?, text, String.toList_ofList]
  unfold ofChars?
  rw [noUrn]
  dsimp only
  split
  next rest isBrace => exact absurd isBrace (noBrace rest)
  next => rw [if_neg (by omega), ofGroups?_chars]

theorem text_injective {left right : Uuid} (same : left.text = right.text) : left = right := by
  have isLeft := left.ofString?_text
  rw [same, right.ofString?_text] at isLeft
  exact (Option.some.inj isLeft).symm

end Uuid

end CertPress
