import CertPress.Proofs.Text.Ascii
import CertPress.Proofs.Time.Calendar
import CertPress.Time.Timestamp
import Mathlib.Data.List.TakeWhile

/-!
# Moments that were written

A moment of the years 0 to 9999 is read back from its written form: every part of the
form is read as it was written, and what is left is the text after the part.
-/

namespace CertPress.Time.Timestamp

open Text (decimalPadded)

/-! ## Numbers -/

section Digits

variable {count number : Nat} (rest : List Char)

theorem digits_decimalPadded (positive : 0 < count) (bound : number < 10 ^ count) :
    digits count (decimalPadded count number ++ rest) = some (number, rest) := by
  have size := Text.length_decimalPadded positive bound
  have filled : decimalPadded count number ≠ [] := by
    rw [← List.length_pos_iff, size]
    exact positive
  rw [digits, List.take_left' size, if_pos size, List.drop_left' size,
    Text.decimal?_of_digits filled fun _ => Text.isDigit_decimalPadded,
    Text.ofDigitChars_decimalPadded]
  rfl

theorem twoDigits_decimalPadded {largest : Nat} (bound : number ≤ largest) (small : number < 100) :
    twoDigits largest (decimalPadded 2 number ++ rest) = some (number, rest) := by
  rw [twoDigits, digits_decimalPadded rest (by decide) small]
  exact if_pos bound

end Digits

/-- A year of four digits is read as it was written. -/
theorem year_yearChars {number : Int} (least : 0 ≤ number) (largest : number ≤ 9999)
    (rest : List Char) : year (yearChars number ++ rest) = some (number, rest) := by
  have bound : number.toNat < 10 ^ 4 := by omega
  have isRead := digits_decimalPadded rest (by decide) bound
  obtain ⟨first, others, isFirst⟩ : ∃ first others,
      decimalPadded 4 number.toNat = first :: others :=
    List.exists_cons_of_ne_nil fun empty => by
      have size := Text.length_decimalPadded (by decide) bound
      simp [empty] at size
  have isDigit : first.isDigit :=
    Text.isDigit_decimalPadded (isFirst ▸ List.mem_cons_self)
  rw [yearChars, if_pos least]
  rw [isFirst] at isRead ⊢
  unfold year
  split
  next isSign =>
    cases isSign
    exact absurd isDigit (by decide)
  next isSign =>
    cases isSign
    exact absurd isDigit (by decide)
  next =>
    rw [isRead]
    simp [least]

theorem date_chars {found : Date} (valid : found.valid) (least : 0 ≤ found.year)
    (largest : found.year ≤ 9999) (rest : List Char) :
    date (yearChars found.year ++ '-' :: (decimalPadded 2 found.month ++
      '-' :: (decimalPadded 2 found.day ++ rest))) = some (found, rest) := by
  have parts := valid
  simp only [Date.valid, Bool.and_eq_true, decide_eq_true_eq] at parts
  obtain ⟨⟨⟨-, months⟩, -⟩, days⟩ := parts
  have mostDays : daysInMonth found.year found.month ≤ 31 := by
    unfold daysInMonth
    split_ifs <;> decide
  have isMonth := digits_decimalPadded ('-' :: (decimalPadded 2 found.day ++ rest))
    (by decide : 0 < 2) (by omega : found.month < 10 ^ 2)
  have isDay := digits_decimalPadded rest (by decide : 0 < 2) (by omega : found.day < 10 ^ 2)
  simp [date, year_yearChars least largest, hyphen, char, isMonth, isDay, valid]

/-! ## Fractions -/

/-- The nine digits of a fraction are those that are written and zeros. -/
theorem exists_zeros (nanos : Nat) : ∃ zeros,
    decimalPadded 9 nanos = fractionDigits nanos ++ List.replicate zeros '0' := by
  refine ⟨((decimalPadded 9 nanos).reverse.takeWhile (· == '0')).length, ?_⟩
  have isZeros : ((decimalPadded 9 nanos).reverse.takeWhile (· == '0')).reverse =
      List.replicate ((decimalPadded 9 nanos).reverse.takeWhile (· == '0')).length '0' := by
    refine List.eq_replicate_iff.mpr ⟨List.length_reverse, fun char member => ?_⟩
    have isZero := List.mem_takeWhile_imp (List.mem_reverse.mp member)
    simpa using isZero
  rw [← isZeros, fractionDigits, ← List.reverse_append, List.takeWhile_append_dropWhile,
    List.reverse_reverse]

section Fraction

variable {nanos : Nat} (bound : nanos < 10 ^ 9)

include bound

/-- The written digits count as many nanoseconds as the zeros left out tell. -/
theorem fractionDigits_spec : (fractionDigits nanos).length ≤ 9 ∧
    (∀ char ∈ fractionDigits nanos, char.isDigit) ∧
    Nat.ofDigitChars 10 (fractionDigits nanos) 0 * 10 ^ (9 - (fractionDigits nanos).length) =
      nanos := by
  obtain ⟨zeros, isPadded⟩ := exists_zeros nanos
  have size := Text.length_decimalPadded (by decide : 0 < 9) bound
  have isNanos : Nat.ofDigitChars 10 (decimalPadded 9 nanos) 0 = nanos :=
    Text.ofDigitChars_decimalPadded
  rw [isPadded] at size isNanos
  simp only [List.length_append, List.length_replicate] at size
  have isZeros : 9 - (fractionDigits nanos).length = zeros := by omega
  refine ⟨by omega, fun char member => ?_, ?_⟩
  · have inPadded : char ∈ decimalPadded 9 nanos :=
      isPadded ▸ List.mem_append_left _ member
    exact Text.isDigit_decimalPadded inPadded
  · rw [Nat.ofDigitChars_append, Nat.ofDigitChars_replicate_zero] at isNanos
    rw [isZeros, Nat.mul_comm]
    exact isNanos

theorem fraction_chars (filled : nanos ≠ 0) {mark : Char} (notDigit : mark.isDigit = false)
    (rest : List Char) :
    fraction ('.' :: (fractionDigits nanos ++ mark :: rest)) = some (nanos, mark :: rest) := by
  obtain ⟨size, isDigits, isNanos⟩ := fractionDigits_spec bound
  have written : fractionDigits nanos ≠ [] := by
    intro empty
    rw [empty, Nat.ofDigitChars_nil, Nat.zero_mul] at isNanos
    exact filled isNanos.symm
  have taken : (List.take 9 (fractionDigits nanos ++ mark :: rest)).takeWhile Char.isDigit =
      fractionDigits nanos := by
    rw [List.take_append, List.take_of_length_le size,
      List.takeWhile_append_of_pos isDigits]
    cases 9 - (fractionDigits nanos).length with
    | zero => simp
    | succ more => simp [notDigit]
  unfold fraction
  dsimp only
  rw [if_pos (by decide), taken, Text.decimal?_of_digits written isDigits, Option.map_some,
    List.drop_left]
  exact congrArg some (congrArg (·, mark :: rest) isNanos)

end Fraction

/-! ## Times -/

theorem timeOfDay_chars {hour minute second nanos : Nat} (hours : hour ≤ 23)
    (minutes : minute ≤ 59) (seconds : second ≤ 59) (bound : nanos < 10 ^ 9) (rest : List Char) :
    timeOfDay (decimalPadded 2 hour ++ ':' :: (decimalPadded 2 minute ++
        ':' :: (decimalPadded 2 second ++
          ((if nanos = 0 then [] else '.' :: fractionDigits nanos) ++ 'Z' :: rest)))) =
      some ((hour * 3600 + minute * 60 + second, nanos), 'Z' :: rest) := by
  obtain ⟨behind, isBehind⟩ : ∃ behind,
    behind = (if nanos = 0 then [] else '.' :: fractionDigits nanos) ++ 'Z' :: rest := ⟨_, rfl⟩
  have isFraction : fraction behind = some (nanos, 'Z' :: rest) := by
    rw [isBehind]
    split
    next zero =>
      subst zero
      rfl
    next filled => exact fraction_chars bound filled (by decide) rest
  have isHour := twoDigits_decimalPadded (':' :: (decimalPadded 2 minute ++
    ':' :: (decimalPadded 2 second ++ behind))) hours (by omega)
  have isMinute := twoDigits_decimalPadded (':' :: (decimalPadded 2 second ++ behind)) minutes
    (by omega)
  have isSecond := twoDigits_decimalPadded behind (by omega : second ≤ 60) (by omega)
  rw [← isBehind]
  simp [timeOfDay, isHour, moreTime, isMinute, isSecond, isFraction, seconds]

/-! ## Moments -/

/-- A moment that lies in the years that are written with four digits. -/
structure Written (moment : Timestamp) : Prop where
  first : minSeconds ≤ moment.seconds
  last : moment.seconds ≤ maxSeconds
  nanos : moment.nanos < 10 ^ 9
  least : 0 ≤ (Date.ofDays (moment.seconds / 86400)).year
  largest : (Date.ofDays (moment.seconds / 86400)).year ≤ 9999

/-- A moment is read back from its written form. -/
theorem ofString?_text {moment : Timestamp} (written : moment.Written) :
    ofString? moment.text = some moment := by
  obtain ⟨second, isSecond⟩ : ∃ second, second = (moment.seconds % 86400).toNat := ⟨_, rfl⟩
  have isDate := date_chars (Date.valid_ofDays (moment.seconds / 86400)) written.least
    written.largest
  have isTime := timeOfDay_chars (by omega : second / 3600 ≤ 23) (by omega : second / 60 % 60 ≤ 59)
    (by omega : second % 60 ≤ 59) written.nanos []
  have total : second / 3600 * 3600 + second / 60 % 60 * 60 + second % 60 = second := by omega
  have isTotal : moment.seconds / 86400 * 86400 + (second : Int) = moment.seconds := by omega
  rw [total] at isTime
  rw [ofString?, text, String.toList_ofList, chars]
  simp only [List.append_assoc, List.cons_append, ← isSecond]
  simp only [ofChars?, isDate, Option.bind_eq_bind, Option.bind_some, isTime, offset,
    zoneAnnotation, annotations, Date.toDays_ofDays, List.length_nil, Int.sub_zero, isTotal]
  simp [written.first, written.last]

end CertPress.Time.Timestamp
