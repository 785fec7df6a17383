import CertPress.Json.Raw
import CertPress.Proofs.Text.Ascii
import Mathlib.Tactic.SplitIfs

/-!
# Numbers that were written

A number is written as a literal of the grammar, and such a literal is read as it is
where nothing follows that could belong to it.  The literal of an integer has no
fraction; that of a double has the digits of its shortest decimal, whose first one is
no zero unless it is the only one.
-/

namespace CertPress

/-! ## Digits -/

namespace Text

theorem head?_toDigits {number : Nat} (positive : 0 < number) :
    (Nat.toDigits 10 number).head? ≠ some '0' := by
  induction number using Nat.strongRecOn with
  | ind number hypothesis =>
      rw [Nat.toDigits_eq_if (by decide)]
      split
      next small =>
        have digit : ∀ value < 10, 0 < value → Nat.digitChar value ≠ '0' := by decide
        simpa using digit number small positive
      next large =>
        have front : 0 < number / 10 := Nat.div_pos (by omega) (by decide)
        have smaller : number / 10 < number := Nat.div_lt_self positive (by decide)
        rw [List.head?_append, Option.or_of_isSome (by simp)]
        exact hypothesis _ smaller front

end Text

namespace Decimal.Double

variable {number : Double}

/-- Zero does not read back as another number. -/
theorem readsBack_zero (notZero : number.isZero = false) {scale step : Nat} (positive : 0 < scale) :
    number.readsBack scale step 0 = false := by
  have significand : 0 < number.significand := by
    simpa [isZero, Nat.pos_iff_ne_zero] using notZero
  have power : 0 < Nat.pow 2 number.exponent := Nat.pow_pos (by decide)
  have units : Nat.pow 2 number.exponent ≤ number.units := Nat.le_mul_of_pos_left _ significand
  have low : 0 < number.lower := by
    rw [lower, center]
    split <;> omega
  have scaled : 0 < number.lower * scale := Nat.mul_pos low positive
  simp [readsBack, Nat.not_le.mpr scaled]

theorem nearestOnGrid?_pos (notZero : number.isZero = false) {exponent : Int} {digits : Nat}
    (found : number.nearestOnGrid? exponent = some digits) : 0 < digits := by
  have scale : 0 < Nat.pow 10 (-exponent).toNat := Nat.pow_pos (by decide)
  unfold nearestOnGrid? at found
  dsimp only at found
  generalize number.center * Nat.pow 10 (-exponent).toNat /
    (4 * Nat.pow 2 places * Nat.pow 10 exponent.toNat) = below at found
  have filled : number.readsBack (Nat.pow 10 (-exponent).toNat)
      (4 * Nat.pow 2 places * Nat.pow 10 exponent.toNat) below → 0 < below := by
    intro fits
    rw [Nat.pos_iff_ne_zero]
    rintro rfl
    rw [readsBack_zero notZero scale] at fits
    cases fits
  split_ifs at found with both nearer farther fits above
  · cases found
    exact filled (Bool.and_eq_true_iff.mp both).1
  · cases found
    exact Nat.succ_pos below
  · cases found
    have := filled (Bool.and_eq_true_iff.mp both).1
    omega
  · cases found
    exact filled fits
  · cases found
    exact Nat.succ_pos below

theorem stripZeros_pos {digits : Nat} (positive : 0 < digits) (exponent : Int) (fuel : Nat) :
    0 < (stripZeros digits exponent fuel).digits := by
  induction fuel generalizing digits exponent with
  | zero => exact positive
  | succ fuel hypothesis =>
      rw [stripZeros]
      split
      next round => exact hypothesis (by omega) _
      next => exact positive

/-- The shortest decimal without digits other than zero is zero itself. -/
theorem exponent_shortest (isZero : number.shortest.digits = 0) : number.shortest.exponent = 0 := by
  have from_pos (notZero : number.isZero = false) (leading : Int) (count fuel : Nat) :
      0 < (number.shortestFrom leading count fuel).digits := by
    induction fuel generalizing count with
    | zero => simpa [shortestFrom, Double.isZero, Nat.pos_iff_ne_zero] using notZero
    | succ fuel hypothesis =>
        rw [shortestFrom]
        split
        next digits found => exact stripZeros_pos (nearestOnGrid?_pos notZero found) _ _
        next => exact hypothesis _
  unfold shortest at isZero ⊢
  split at isZero
  next zero => rw [if_pos zero]
  next notZero =>
    have positive := from_pos (by simpa using notZero) number.leadingExponent 1 18
    omega

end Decimal.Double

namespace Json

/-! ## Literals -/

/-- What may stand after a number: nothing that would belong to it. -/
def Raw.EndsNumber (rest : Source) : Prop :=
  ∀ char, rest.head? = some (some char) →
    char.isDigit = false ∧ char ≠ '.' ∧ char ≠ 'e' ∧ char ≠ 'E'

namespace NumberLiteral

/-- The text of the fraction. -/
def fractionChars (literal : NumberLiteral) : List Char :=
  (literal.fraction.map ('.' :: ·)).getD []

/-- The text of the exponent, with its sign. -/
def exponentChars (literal : NumberLiteral) : List Char :=
  (literal.exponent.map fun (negative, digits) =>
    'e' :: (if negative then '-' else '+') :: digits).getD []

/-- The text of a literal. -/
def chars (literal : NumberLiteral) : List Char :=
  (if literal.negative then ['-'] else []) ++
    (literal.whole ++ (literal.fractionChars ++ literal.exponentChars))

/-- A literal of the grammar. -/
structure Proper (literal : NumberLiteral) : Prop where
  whole_digits : ∀ char ∈ literal.whole, char.isDigit
  whole_filled : literal.whole ≠ []
  /-- A zero may not be followed by another digit. -/
  whole_head : literal.whole.head? = some '0' → literal.whole.length = 1
  fraction : ∀ digits ∈ literal.fraction, digits ≠ [] ∧ ∀ char ∈ digits, char.isDigit
  exponent : ∀ part ∈ literal.exponent, part.2 ≠ [] ∧ ∀ char ∈ part.2, char.isDigit

end NumberLiteral

namespace Raw

/-- A run of digits ends at the first other character. -/
theorem spanDigits_append {digits : List Char} (isDigits : ∀ char ∈ digits, char.isDigit)
    {rest : Source} (ends : ∀ char, rest.head? = some (some char) → char.isDigit = false) :
    spanDigits (.ofChars digits ++ rest) = (digits, rest) := by
  induction digits with
  | nil =>
      rcases rest with - | ⟨- | char, more⟩
      · rfl
      · rfl
      · have notDigit := ends char rfl
        show spanDigits (some char :: more) = _
        rw [spanDigits, if_neg (by simp [notDigit])]
  | cons digit others hypothesis =>
      have isDigit := isDigits digit (.head _)
      show spanDigits (some digit :: (Source.ofChars others ++ rest)) = _
      rw [spanDigits, if_pos isDigit, hypothesis fun char member => isDigits char (.tail _ member)]

section Literal

variable {literal : NumberLiteral} (proper : literal.Proper) {rest : Source}
  (ends : EndsNumber rest)

include proper ends

theorem readExponent_chars :
    readExponent (.ofChars literal.exponentChars ++ rest) = some (literal.exponent, rest) := by
  have noDigit : ∀ char, rest.head? = some (some char) → char.isDigit = false :=
    fun char head => (ends char head).1
  unfold NumberLiteral.exponentChars
  cases isPart : literal.exponent with
  | none =>
      show readExponent rest = _
      unfold readExponent
      split
      next mark more =>
        obtain ⟨-, -, notSmall, notCapital⟩ := ends mark rfl
        rw [if_neg (by simp [notSmall, notCapital])]
      next => rfl
  | some part =>
      obtain ⟨filled, isDigits⟩ := proper.exponent part isPart
      obtain ⟨negative, digits⟩ := part
      have spanned := spanDigits_append isDigits noDigit
      cases negative with
      | true =>
          show readExponent (some 'e' :: some '-' :: (Source.ofChars digits ++ rest)) = _
          simpa [readExponent, spanned] using filled
      | false =>
          show readExponent (some 'e' :: some '+' :: (Source.ofChars digits ++ rest)) = _
          simpa [readExponent, spanned] using filled

omit proper in
theorem head?_exponentChars {char : Char}
    (head : (Source.ofChars literal.exponentChars ++ rest).head? = some (some char)) :
    char.isDigit = false ∧ char ≠ '.' := by
  unfold NumberLiteral.exponentChars at head
  cases isPart : literal.exponent with
  | none =>
      rw [isPart] at head
      obtain ⟨noDigit, noPoint, -⟩ := ends char head
      exact ⟨noDigit, noPoint⟩
  | some part =>
      rw [isPart] at head
      cases head
      decide

theorem readFraction_chars :
    readFraction (.ofChars literal.fractionChars ++ (.ofChars literal.exponentChars ++ rest)) =
      some (literal.fraction, .ofChars literal.exponentChars ++ rest) := by
  have following (char : Char) := @head?_exponentChars literal rest ends char
  generalize Source.ofChars literal.exponentChars ++ rest = more at following
  unfold NumberLiteral.fractionChars
  cases isPart : literal.fraction with
  | none =>
      show readFraction more = _
      unfold readFraction
      split
      next => exact absurd rfl (following '.' rfl).2
      next => rfl
  | some digits =>
      obtain ⟨filled, isDigits⟩ := proper.fraction digits isPart
      have spanned := spanDigits_append isDigits fun char head => (following char head).1
      show readFraction (some '.' :: (Source.ofChars digits ++ more)) = _
      simpa [readFraction, spanned] using filled

omit proper in
theorem head?_fractionChars {char : Char} (head : (Source.ofChars literal.fractionChars ++
      (Source.ofChars literal.exponentChars ++ rest)).head? = some (some char)) :
    char.isDigit = false := by
  unfold NumberLiteral.fractionChars at head
  cases isPart : literal.fraction with
  | none =>
      rw [isPart] at head
      exact (head?_exponentChars ends head).1
  | some digits =>
      rw [isPart] at head
      cases head
      decide

/-- A literal of the grammar is read as it is. -/
theorem readNumber_chars :
    readNumber (.ofChars literal.chars ++ rest) = some (literal, rest) := by
  have noDigit (char : Char) := @head?_fractionChars literal rest ends char
  have spanned := spanDigits_append proper.whole_digits noDigit
  have fraction := readFraction_chars proper ends
  have exponent := readExponent_chars proper ends
  have wellFormed : literal.whole ≠ [] ∧ (literal.whole.head? = some '0' → literal.whole.length ≤ 1) :=
    ⟨proper.whole_filled, fun head => (proper.whole_head head).le⟩
  have source : Source.ofChars literal.chars ++ rest =
      (if literal.negative then [some '-'] else []) ++ (Source.ofChars literal.whole ++
        (Source.ofChars literal.fractionChars ++ (Source.ofChars literal.exponentChars ++ rest))) := by
    rw [NumberLiteral.chars]
    split <;> simp [Source.ofChars]
  rw [source]
  generalize Source.ofChars literal.fractionChars ++
    (Source.ofChars literal.exponentChars ++ rest) = more at spanned fraction
  obtain ⟨negative, whole, fractionDigits, exponentPart⟩ := literal
  cases negative with
  | true => simpa [readNumber, spanned, fraction, exponent] using wellFormed
  | false =>
      have unsigned : ∀ later, Source.ofChars whole ++ more ≠ some '-' :: later := by
        intro later same
        obtain ⟨first, others, rfl⟩ := List.exists_cons_of_ne_nil wellFormed.1
        have isDigit := proper.whole_digits first (.head _)
        cases same
        exact absurd isDigit (by decide)
      simpa [readNumber, spanned, fraction, exponent, unsigned] using wellFormed

end Literal

end Raw

/-! ## Numbers -/

namespace Number

/-- Whether a text is that of a literal, also with a sign in front. -/
def Unsigned (chars : List Char) : Prop :=
  ∀ negative : Bool, ∃ literal : NumberLiteral, literal.Proper ∧
    literal.chars = (if negative then ['-'] else []) ++ chars

theorem unsigned_of_parts {literal : NumberLiteral} (proper : literal.Proper) {chars : List Char}
    (same : literal.whole ++ (literal.fractionChars ++ literal.exponentChars) = chars) :
    Unsigned chars := by
  intro negative
  refine ⟨{ literal with negative }, ?_, ?_⟩
  · exact ⟨proper.whole_digits, proper.whole_filled, proper.whole_head, proper.fraction,
      proper.exponent⟩
  · rw [← same]
    rfl

/-- The literal of digits alone. -/
theorem unsigned_digits (number : Nat) : Unsigned (Nat.toDigits 10 number) := by
  have proper : (⟨false, Nat.toDigits 10 number, none, none⟩ : NumberLiteral).Proper := by
    refine ⟨Text.isDigit_toDigits number, by simp, fun head => ?_, by simp, by simp⟩
    cases number with
    | zero => rfl
    | succ less => exact absurd head (Text.head?_toDigits less.succ_pos)
  refine unsigned_of_parts proper ?_
  simp [NumberLiteral.fractionChars, NumberLiteral.exponentChars]

section Decimal

variable {digits : List Char} {exponent : Int} (isDigits : ∀ char ∈ digits, char.isDigit)
  (filled : digits ≠ [])

include isDigits filled

/-- Positional notation has a point with digits on both sides. -/
theorem unsigned_positional (head : digits.head? = some '0' → digits.length = 1 ∧ exponent = 0) :
    Unsigned (positional digits exponent) := by
  have zeros (count : Nat) : ∀ char ∈ List.replicate count '0', char.isDigit := by
    intro char member
    rw [List.eq_of_mem_replicate member]
    decide
  unfold positional
  dsimp only
  split
  next whole =>
    have proper : (⟨false, digits ++ List.replicate exponent.toNat '0', some ['0'], none⟩ :
        NumberLiteral).Proper := by
      refine ⟨fun char member => ?_, by simp [filled], fun isZero => ?_, by simp, by simp⟩
      · exact (List.mem_append.mp member).elim (isDigits char) (zeros _ char)
      · rw [List.head?_append, Option.or_of_isSome (by simpa using filled)] at isZero
        obtain ⟨single, rfl⟩ := head isZero
        simpa using single
    refine unsigned_of_parts proper ?_
    simp [NumberLiteral.fractionChars, NumberLiteral.exponentChars]
  next broken =>
    split
    next inside =>
      have proper : (⟨false, digits.take (digits.length + exponent).toNat,
          some (digits.drop (digits.length + exponent).toNat), none⟩ : NumberLiteral).Proper := by
        have someTaken : (digits.length + exponent).toNat ≠ 0 := by omega
        have someLeft : (digits.length + exponent).toNat < digits.length := by omega
        refine ⟨fun char member => isDigits char (List.mem_of_mem_take member), ?_, ?_, ?_, by simp⟩
        · simp [List.take_eq_nil_iff, filled, someTaken]
        · intro isZero
          rw [List.head?_take, if_neg someTaken] at isZero
          have := (head isZero).2
          omega
        · intro dropped isDropped
          cases isDropped
          refine ⟨?_, fun char member => isDigits char (List.mem_of_mem_drop member)⟩
          simpa [List.drop_eq_nil_iff] using someLeft
      refine unsigned_of_parts proper ?_
      simp [NumberLiteral.fractionChars, NumberLiteral.exponentChars]
    next below =>
      have proper : (⟨false, ['0'], some (List.replicate (-(digits.length + exponent)).toNat '0' ++
          digits), none⟩ : NumberLiteral).Proper := by
        refine ⟨by simp, by simp, by simp, ?_, by simp⟩
        intro fraction isFraction
        cases isFraction
        refine ⟨by simp [filled], fun char member => ?_⟩
        exact (List.mem_append.mp member).elim (zeros _ char) (isDigits char)
      refine unsigned_of_parts proper ?_
      simp [NumberLiteral.fractionChars, NumberLiteral.exponentChars]

/-- Scientific notation has one digit before the point. -/
theorem unsigned_scientific (leading : Int) : Unsigned (scientific digits leading) := by
  have power : Nat.toDigits 10 leading.natAbs ≠ [] ∧
      ∀ char ∈ Nat.toDigits 10 leading.natAbs, char.isDigit :=
    ⟨by simp, Text.isDigit_toDigits _⟩
  have exponent_proper (part : Bool × List Char)
      (isPart : part ∈ some (decide (leading < 0), Nat.toDigits 10 leading.natAbs)) :
      part.2 ≠ [] ∧ ∀ char ∈ part.2, char.isDigit := by
    cases isPart
    exact power
  have sign : (if leading < 0 then '-' else '+') = if decide (leading < 0) then '-' else '+' := by
    simp
  obtain ⟨first, others, rfl⟩ := List.exists_cons_of_ne_nil filled
  have isDigit := isDigits first (.head _)
  unfold scientific
  dsimp only
  rw [sign]
  cases others with
  | nil =>
      have proper : (⟨false, [first], none,
          some (decide (leading < 0), Nat.toDigits 10 leading.natAbs)⟩ : NumberLiteral).Proper :=
        ⟨by simpa using isDigit, by simp, by simp, by simp, exponent_proper⟩
      refine unsigned_of_parts proper ?_
      simp [NumberLiteral.fractionChars, NumberLiteral.exponentChars]
  | cons second rest =>
      have proper : (⟨false, [first], some (second :: rest),
          some (decide (leading < 0), Nat.toDigits 10 leading.natAbs)⟩ : NumberLiteral).Proper := by
        refine ⟨by simpa using isDigit, by simp, by simp, ?_, exponent_proper⟩
        intro fraction isFraction
        cases isFraction
        exact ⟨by simp, fun char member => isDigits char (.tail _ member)⟩
      refine unsigned_of_parts proper ?_
      simp [NumberLiteral.fractionChars, NumberLiteral.exponentChars]

end Decimal

/-- Every number is written as a literal. -/
theorem exists_literal (number : Number) :
    ∃ literal : NumberLiteral, literal.Proper ∧ literal.chars = number.chars := by
  cases number with
  | integer value =>
      obtain ⟨literal, proper, same⟩ := unsigned_digits value.natAbs (decide (value < 0))
      refine ⟨literal, proper, ?_⟩
      rw [same, chars]
      split <;> simp_all
  | double value =>
      have isDigits := Text.isDigit_toDigits value.shortest.digits
      have filled : Nat.toDigits 10 value.shortest.digits ≠ [] := by simp
      have head : (Nat.toDigits 10 value.shortest.digits).head? = some '0' →
          (Nat.toDigits 10 value.shortest.digits).length = 1 ∧ value.shortest.exponent = 0 := by
        intro isZero
        have zero : value.shortest.digits = 0 := by
          by_contra notZero
          exact Text.head?_toDigits (Nat.pos_of_ne_zero notZero) isZero
        rw [zero]
        exact ⟨rfl, Decimal.Double.exponent_shortest zero⟩
      have unsigned (leading : Int) : Unsigned
          (if -5 ≤ leading ∧ leading ≤ 15 then
            positional (Nat.toDigits 10 value.shortest.digits) value.shortest.exponent
          else scientific (Nat.toDigits 10 value.shortest.digits) leading) := by
        split
        next => exact unsigned_positional isDigits filled head
        next => exact unsigned_scientific isDigits filled leading
      obtain ⟨literal, proper, same⟩ := unsigned
        (value.shortest.exponent + (Nat.toDigits 10 value.shortest.digits).length - 1)
        value.negative
      refine ⟨literal, proper, ?_⟩
      rw [same, chars, doubleChars]
      cases value.negative <;> rfl

/-- A number that was written is read as a literal where nothing follows that would
belong to it, and this does not depend on what follows. -/
theorem exists_readNumber (number : Number) :
    ∃ literal, ∀ rest, Raw.EndsNumber rest →
      Raw.readNumber (.ofChars number.chars ++ rest) = some (literal, rest) := by
  obtain ⟨literal, proper, same⟩ := exists_literal number
  refine ⟨literal, fun rest ends => ?_⟩
  rw [← same]
  exact Raw.readNumber_chars proper ends

end Number

end Json

end CertPress
