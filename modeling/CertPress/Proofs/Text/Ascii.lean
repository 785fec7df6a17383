import CertPress.Proofs.Text.Trim
import CertPress.Text.Ascii
import Mathlib.Data.Nat.Digits.Defs

/-!
# Numbers and letters that were written

A number is read back from its decimal digits, and a character whose small form is
no letter is that form itself.
-/

namespace CertPress.Text

theorem isDigit_toDigits (number : Nat) : ∀ char ∈ Nat.toDigits 10 number, char.isDigit :=
  fun _ member => Nat.isDigit_of_mem_toDigits (by decide) (by decide) member

theorem le_ofDigitChars (digits : List Char) (start : Nat) :
    start ≤ Nat.ofDigitChars 10 digits start := by
  rw [Nat.ofDigitChars_eq_ofDigitChars_zero]
  exact (Nat.le_mul_of_pos_left _ (Nat.pow_pos (by decide))).trans (Nat.le_add_right _ _)

theorem foldlM_digitValue? (digits : List Char) (isDigits : ∀ char ∈ digits, char.isDigit)
    (start : Nat) :
    digits.foldlM (fun number char => (digitValue? char).map (number * 10 + ·)) start =
      some (Nat.ofDigitChars 10 digits start) := by
  induction digits generalizing start with
  | nil => rfl
  | cons char rest hypothesis =>
      have value : digitValue? char = some (char.toNat - '0'.toNat) :=
        if_pos (isDigits char (.head _))
      have rest_eq := hypothesis (fun other inRest => isDigits other (.tail _ inRest))
      rw [List.foldlM_cons, value, Option.map_some, Option.bind_eq_bind, Option.bind_some, rest_eq,
        Nat.ofDigitChars, Nat.ofDigitChars, List.foldl_cons, Nat.mul_comm]

/-- The number that a run of decimal digits denotes. -/
theorem decimal?_of_digits {digits : List Char} (filled : digits ≠ [])
    (isDigits : ∀ char ∈ digits, char.isDigit) :
    decimal? digits = some (Nat.ofDigitChars 10 digits 0) := by
  have notEmpty : digits.isEmpty = false := by simpa using filled
  rw [decimal?, notEmpty, if_neg Bool.false_ne_true, foldlM_digitValue? _ isDigits]

section DecimalPadded

variable {width number : Nat}

theorem isDigit_decimalPadded {char : Char} (member : char ∈ decimalPadded width number) :
    char.isDigit := by
  rcases List.mem_append.mp member with isZero | inDigits
  · rw [List.eq_of_mem_replicate isZero]
    decide
  · exact isDigit_toDigits number char inDigits

theorem length_decimalPadded (positive : 0 < width) (bound : number < 10 ^ width) :
    (decimalPadded width number).length = width := by
  have fits : (Nat.toDigits 10 number).length ≤ width :=
    (Nat.length_toDigits_le_iff (by decide) positive).mpr bound
  simp only [decimalPadded, List.length_append, List.length_replicate]
  omega

theorem ofDigitChars_decimalPadded :
    Nat.ofDigitChars 10 (decimalPadded width number) 0 = number := by
  simp [decimalPadded, Nat.ofDigitChars_append, Nat.ofDigitChars_replicate_zero]

end DecimalPadded

/-- A number is read back from its decimal digits. -/
theorem decimal?_toDigits (number : Nat) : decimal? (Nat.toDigits 10 number) = some number := by
  have filled : (Nat.toDigits 10 number).isEmpty = false := by simp
  rw [decimal?, filled, if_neg Bool.false_ne_true, foldlM_digitValue? _ (isDigit_toDigits number),
    Nat.ofDigitChars_ten_toDigits]

/-- Digits continue a number as long as it stays in bounds. -/
theorem continueUnsigned_of_lt {digits : List Char} (isDigits : ∀ char ∈ digits, char.isDigit)
    {bound start : Nat} (small : Nat.ofDigitChars 10 digits start < bound) :
    continueUnsigned bound start digits = .ok (Nat.ofDigitChars 10 digits start) := by
  induction digits generalizing start with
  | nil => rfl
  | cons char rest hypothesis =>
      have value : digitValue? char = some (char.toNat - '0'.toNat) :=
        if_pos (isDigits char (.head _))
      have next_eq : Nat.ofDigitChars 10 (char :: rest) start =
          Nat.ofDigitChars 10 rest (start * 10 + (char.toNat - '0'.toNat)) := by
        rw [Nat.ofDigitChars_cons, Nat.mul_comm]
      rw [next_eq] at small ⊢
      simp only [continueUnsigned, value]
      rw [if_pos ((le_ofDigitChars rest _).trans_lt small),
        hypothesis (fun other inRest => isDigits other (.tail _ inRest)) small]

/-- A number is read back from its decimal digits if it is in bounds. -/
theorem unsigned_toDigits {bound number : Nat} (small : number < bound) :
    unsigned bound (Nat.toDigits 10 number) = .ok number := by
  have isDigits := isDigit_toDigits number
  have value : Nat.ofDigitChars 10 (Nat.toDigits 10 number) 0 = number :=
    Nat.ofDigitChars_ten_toDigits
  have read : continueUnsigned bound 0 (Nat.toDigits 10 number) = .ok number := by
    rw [continueUnsigned_of_lt isDigits (by rwa [value]), value]
  rw [← read]
  cases digits : Nat.toDigits 10 number with
  | nil => simp at digits
  | cons first rest =>
      rw [digits] at isDigits
      have noSign : first ≠ '+' := by
        rintro rfl
        exact absurd (isDigits '+' (.head _)) (by decide)
      unfold unsigned
      split <;> simp_all

theorem isBlank_eq_false_of_isDigit {char : Char} (digit : char.isDigit) :
    isBlank char = false := by
  simp only [Char.isDigit, Bool.and_eq_true, decide_eq_true_eq] at digit
  have low : 48 ≤ char.toNat := UInt32.le_iff_toNat_le.mp digit.1
  have high : char.toNat ≤ 57 := UInt32.le_iff_toNat_le.mp digit.2
  rw [Bool.eq_false_iff]
  intro blank
  simp only [isBlank, Bool.or_eq_true, Bool.and_eq_true, decide_eq_true_eq, beq_iff_eq] at blank
  omega

@[simp] theorem trim_toDigits (number : Nat) :
    trim (Nat.toDigits 10 number) = Nat.toDigits 10 number :=
  trim_eq_self fun char member => isBlank_eq_false_of_isDigit (isDigit_toDigits number char member)

/-- The digits of a number in a base up to sixteen. -/
theorem mem_toDigits {base number : Nat} {char : Char} (least : 1 < base)
    (member : char ∈ Nat.toDigits base number) : ∃ value < base, char = Nat.digitChar value := by
  induction number using Nat.strongRecOn with
  | ind number hypothesis =>
      rw [Nat.toDigits_eq_if least] at member
      split at member
      next small => exact ⟨number, small, List.mem_singleton.mp member⟩
      next large =>
        rcases List.mem_append.mp member with inFront | last
        · have positive : 0 < number := by omega
          exact hypothesis _ (Nat.div_lt_self positive least) inFront
        · exact ⟨_, Nat.mod_lt _ (by omega), List.mem_singleton.mp last⟩

/-- A character has a small form of another code only if it is a capital letter. -/
theorem eq_or_of_toLower {char small : Char} (lower : char.toLower = small) :
    char = small ∨ (char.toNat + 32 = small.toNat ∧ 65 ≤ char.toNat) := by
  unfold Char.toLower at lower
  split at lower
  next isCapital =>
    have low : 65 ≤ char.toNat := UInt32.le_iff_toNat_le.mp isCapital.1
    have high : char.toNat ≤ 90 := UInt32.le_iff_toNat_le.mp isCapital.2
    have code : (char.val + ('a'.val - 'A'.val)).toNat = char.toNat + 32 := by
      rw [UInt32.toNat_add]
      show (char.toNat + 32) % 4294967296 = char.toNat + 32
      omega
    exact .inr ⟨lower ▸ code.symm, low⟩
  next => exact .inl lower

/-- A character whose small form is not blank is not blank. -/
theorem isBlank_eq_false_of_toLower {char : Char} (shown : isBlank char.toLower = false) :
    isBlank char = false := by
  unfold Char.toLower at shown
  split at shown
  next isCapital =>
    have low : 65 ≤ char.toNat := UInt32.le_iff_toNat_le.mp isCapital.1
    have high : char.toNat ≤ 90 := UInt32.le_iff_toNat_le.mp isCapital.2
    rw [Bool.eq_false_iff]
    intro blank
    simp only [isBlank, Bool.or_eq_true, Bool.and_eq_true, decide_eq_true_eq, beq_iff_eq] at blank
    omega
  next => exact shown

end CertPress.Text
