import CertPress.Proofs.Json.Number
import CertPress.Proofs.Json.Text
import CertPress.Proofs.Keys
import CertPress.Proofs.Text.Ascii

/-!
# Values that are read back

A value without doubles is read back from the tree that it is written as, if a reader may
enter as many containers as it has levels.  A double may read as its neighbour, so this
does not hold of all values.
-/

namespace CertPress.Json

/-! ## Integers -/

namespace Number

/-- The integers that a number can be: those of 64 bits, with a sign or without. -/
def InRange (value : Int) : Prop := -2 ^ 63 ≤ value ∧ value < 2 ^ 64

/-- The literal of an integer. -/
def integerLiteral (value : Int) : NumberLiteral :=
  ⟨decide (value < 0), Nat.toDigits 10 value.natAbs, none, none⟩

theorem proper_integerLiteral (value : Int) : (integerLiteral value).Proper := by
  refine ⟨Text.isDigit_toDigits _, by simp [integerLiteral], fun head => ?_,
    by simp [integerLiteral], by simp [integerLiteral]⟩
  by_cases zero : value.natAbs = 0
  · simp [integerLiteral, zero]
  · exact absurd head (Text.head?_toDigits (Nat.pos_of_ne_zero zero))

theorem chars_integerLiteral (value : Int) :
    (integerLiteral value).chars = (Number.integer value).chars := by
  unfold chars NumberLiteral.chars
  dsimp only
  by_cases negative : value < 0 <;>
    simp [integerLiteral, negative, NumberLiteral.fractionChars, NumberLiteral.exponentChars]

/-- Digits are taken into a significand as long as their number stays in bounds. -/
theorem takeDigits_of_lt {digits : List Char} {value : Nat} (taken : Nat)
    (bound : Nat.ofDigitChars 10 digits value < unsignedBound) :
    takeDigits value taken digits =
      ⟨Nat.ofDigitChars 10 digits value, taken + digits.length, []⟩ := by
  induction digits generalizing value taken with
  | nil => rfl
  | cons char rest hypothesis =>
      have next_eq : Nat.ofDigitChars 10 (char :: rest) value =
          Nat.ofDigitChars 10 rest (value * 10 + (char.toNat - '0'.toNat)) := by
        rw [Nat.ofDigitChars_cons, Nat.mul_comm]
      rw [next_eq] at bound ⊢
      rw [takeDigits, if_pos ((Text.le_ofDigitChars rest _).trans_lt bound), hypothesis (taken + 1) bound,
        List.length_cons]
      congr 1
      omega

/-- An integer is read back from its literal. -/
theorem ofLiteral_integerLiteral {value : Int} (inRange : InRange value) :
    ofLiteral (integerLiteral value) = some (.integer value) := by
  obtain ⟨least, largest⟩ := inRange
  have isValue : Nat.ofDigitChars 10 (Nat.toDigits 10 value.natAbs) 0 = value.natAbs :=
    Nat.ofDigitChars_ten_toDigits
  have taken : takeDigits 0 0 (Nat.toDigits 10 value.natAbs) =
      ⟨value.natAbs, 0 + (Nat.toDigits 10 value.natAbs).length, []⟩ := by
    rw [takeDigits_of_lt, isValue]
    rw [isValue, unsignedBound]
    show value.natAbs < 2 ^ 64
    omega
  unfold ofLiteral
  simp only [integerLiteral, taken, Option.isNone_none, List.isEmpty_nil, Bool.and_self, if_true]
  by_cases negative : value < 0
  · have small : 0 < value.natAbs ∧ value.natAbs ≤ Nat.pow 2 63 := by
      refine ⟨by omega, ?_⟩
      show value.natAbs ≤ 2 ^ 63
      omega
    rw [if_pos (decide_eq_true negative), if_pos small]
    congr 2
    omega
  · rw [if_neg (by simpa using negative)]
    congr 2
    omega

/-- Digits that are all taken into a significand are its value. -/
theorem value_takeDigits {digits : List Char} {value taken : Nat}
    (whole : (takeDigits value taken digits).rest = []) :
    (takeDigits value taken digits).value = Nat.ofDigitChars 10 digits value := by
  induction digits generalizing value taken with
  | nil => rfl
  | cons char rest hypothesis =>
      rw [takeDigits] at whole ⊢
      split at whole
      next inside =>
        rw [if_pos inside, hypothesis whole, Nat.ofDigitChars_cons, Nat.mul_comm]
      next => cases whole

/-- Only a literal without point and exponent stands for an integer, and for that of its digits. -/
theorem ofLiteral_eq_integer {literal : NumberLiteral} {value : Int}
    (found : ofLiteral literal = some (.integer value)) :
    literal.fraction = none ∧ literal.exponent = none ∧
      value.natAbs = Nat.ofDigitChars 10 literal.whole 0 ∧ (0 ≤ value ↔ literal.negative = false) := by
  unfold ofLiteral at found
  dsimp only at found
  split at found
  next plain =>
    simp only [Bool.and_eq_true, Option.isNone_iff_eq_none, List.isEmpty_iff] at plain
    obtain ⟨⟨noFraction, noExponent⟩, whole⟩ := plain
    rw [value_takeDigits whole] at found
    refine ⟨noFraction, noExponent, ?_⟩
    cases sign : literal.negative with
    | true =>
        rw [sign, if_pos rfl] at found
        split at found
        next small =>
          cases found
          exact ⟨by omega, by simp; omega⟩
        next =>
          obtain ⟨number, -, isDouble⟩ := Option.map_eq_some_iff.mp found
          cases isDouble
    | false =>
        rw [sign, if_neg Bool.false_ne_true] at found
        cases found
        exact ⟨by omega, by simp⟩
  next =>
    obtain ⟨number, -, isDouble⟩ := Option.map_eq_some_iff.mp found
    cases isDouble

/-! ## Doubles -/

/-- The text of a double has a point or an exponent. -/
theorem exists_mark_doubleChars (number : Decimal.Double) :
    ∃ mark ∈ doubleChars number, mark = '.' ∨ mark = 'e' := by
  have positionalMark (digits : List Char) (exponent : Int) :
      '.' ∈ positional digits exponent := by
    unfold positional
    dsimp only
    split_ifs <;> simp
  have scientificMark (digits : List Char) (leading : Int) : 'e' ∈ scientific digits leading := by
    unfold scientific
    simp
  have unsigned (leading : Int) : ∃ mark ∈
      (if -5 ≤ leading ∧ leading ≤ 15 then
        positional (Nat.toDigits 10 number.shortest.digits) number.shortest.exponent
      else scientific (Nat.toDigits 10 number.shortest.digits) leading),
      mark = '.' ∨ mark = 'e' := by
    split
    next => exact ⟨'.', positionalMark _ _, .inl rfl⟩
    next => exact ⟨'e', scientificMark _ _, .inr rfl⟩
  obtain ⟨mark, member, isMark⟩ := unsigned
    (number.shortest.exponent + (Nat.toDigits 10 number.shortest.digits).length - 1)
  refine ⟨mark, ?_, isMark⟩
  unfold doubleChars
  dsimp only
  split
  next => exact .tail _ member
  next => exact member

/-- A double never reads as an integer, whatever its value. -/
theorem ofLiteral_double {number : Decimal.Double} {literal : NumberLiteral}
    (proper : literal.Proper) (same : literal.chars = (Number.double number).chars) (value : Int) :
    ofLiteral literal ≠ some (.integer value) := by
  intro found
  obtain ⟨noFraction, noExponent, -, -⟩ := ofLiteral_eq_integer found
  obtain ⟨mark, member, isMark⟩ := exists_mark_doubleChars number
  have inLiteral : mark ∈ (if literal.negative then ['-'] else []) ++ literal.whole := by
    rw [show doubleChars number = literal.chars from same.symm] at member
    simpa [NumberLiteral.chars, NumberLiteral.fractionChars, NumberLiteral.exponentChars,
      noFraction, noExponent] using member
  rcases List.mem_append.mp inLiteral with inSign | inWhole
  · have isSign : mark = '-' := by
      split at inSign
      next => exact List.mem_singleton.mp inSign
      next => cases inSign
    subst isSign
    exact absurd isMark (by decide)
  · have isDigit := proper.whole_digits mark inWhole
    rcases isMark with rfl | rfl <;> exact absurd isDigit (by decide)

end Number

/-! ## Values -/

/-- A value without doubles, whose objects are in key order and which is nested no more than
a number of levels. -/
inductive Value.Exact : Nat → Value → Prop where
  | null {levels : Nat} : Exact levels .null
  | bool {levels : Nat} (value : Bool) : Exact levels (.bool value)
  | integer {levels : Nat} {value : Int} :
      Number.InRange value → Exact levels (.number (.integer value))
  | string {levels : Nat} (text : String) : Exact levels (.string text)
  | array {levels : Nat} {items : List Value} :
      (∀ item ∈ items, Exact levels item) → Exact (levels + 1) (.array items)
  | object {levels : Nat} {members : List (String × Value)} : Ordered members →
      (∀ member ∈ members, Exact levels member.2) → Exact (levels + 1) (.object members)

/-- A value may be nested less deeply than it could be. -/
theorem Value.Exact.mono {levels more : Nat} {value : Value} (exact : value.Exact levels)
    (deeper : levels ≤ more) : value.Exact more := by
  induction exact generalizing more with
  | null => exact .null
  | bool value => exact .bool value
  | integer inRange => exact .integer inRange
  | string text => exact .string text
  | array items hypothesis =>
      obtain ⟨less, rfl⟩ : ∃ less, more = less + 1 := ⟨more - 1, by omega⟩
      exact .array fun item member => hypothesis item member (by omega)
  | object ordered members hypothesis =>
      obtain ⟨less, rfl⟩ : ∃ less, more = less + 1 := ⟨more - 1, by omega⟩
      exact .object ordered fun member inMembers => hypothesis member inMembers (by omega)

/-- An object of entries is nested one level more than their values. -/
theorem Value.Exact.ofList {levels : Nat} {entries : List (String × Value)}
    (each : ∀ entry ∈ entries, entry.2.Exact levels) :
    (Value.ofObject (.ofList entries)).Exact (levels + 1) := by
  refine .object (Mapping.ordered _) fun ⟨key, value⟩ member => ?_
  rcases Mapping.get?_insertAll_eq_some (Mapping.mem_entries_iff.mp member) with isOld | inEntries
  · cases isOld
  · exact each (key, value) inEntries

namespace Raw

variable {depth : Nat}

theorem ofValue_integer (value : Int) :
    ofValue (.number (.integer value)) = .number (Number.integerLiteral value) := by
  have ends : EndsNumber [] := fun _ head => by cases head
  have isRead := readNumber_chars (Number.proper_integerLiteral value) ends
  rw [List.append_nil, Number.chars_integerLiteral] at isRead
  rw [ofValue, isRead]

/-- A number is written as a literal. -/
theorem exists_literal (number : Number) :
    ∃ literal : NumberLiteral, literal.Proper ∧ literal.chars = number.chars ∧
      ofValue (.number number) = .number literal := by
  obtain ⟨literal, proper, same⟩ := Number.exists_literal number
  have ends : EndsNumber [] := fun _ head => by cases head
  have isRead := readNumber_chars proper ends
  rw [List.append_nil, same] at isRead
  exact ⟨literal, proper, same, by rw [ofValue, isRead]⟩

theorem enter_of_lt (deep : 1 < depth) : enter depth = .ok (depth - 1) := if_neg (by omega)

theorem itemsToValues_ofItems {items : List Value}
    (isRead : ∀ item ∈ items, (ofValue item).toValue depth = .ok item) :
    itemsToValues depth (ofItems items) = .ok items := by
  induction items with
  | nil => rfl
  | cons item rest hypothesis =>
      have isFirst := isRead item (.head _)
      have isRest := hypothesis fun other member => isRead other (.tail _ member)
      simp [ofItems, itemsToValues, isFirst, isRest, bind, Except.bind, pure, Except.pure]

theorem membersToEntries_ofMembers {members : List (String × Value)}
    (isRead : ∀ member ∈ members, (ofValue member.2).toValue depth = .ok member.2) :
    membersToEntries depth (ofMembers members) = .ok members := by
  induction members with
  | nil => rfl
  | cons member rest hypothesis =>
      obtain ⟨key, value⟩ := member
      have isKey : textOf (.ofChars (key.toList.flatMap escapeChar)) = .ok key :=
        textOf_escaped key
      have isFirst := isRead (key, value) (.head _)
      have isRest := hypothesis fun other member => isRead other (.tail _ member)
      simp only [ofMembers, membersToEntries, isKey, isFirst, isRest, bind, Except.bind, pure,
        Except.pure]

/-- A value is read back, by induction on its levels. -/
theorem toValue_ofValue {levels : Nat} {value : Value} (exact : value.Exact levels)
    (deep : levels < depth) : (ofValue value).toValue depth = .ok value := by
  induction exact generalizing depth with
  | null => rfl
  | bool value => rfl
  | integer inRange =>
      rw [ofValue_integer, toValue, Number.ofLiteral_integerLiteral inRange]
  | string text =>
      have isText : textOf (.ofChars (text.toList.flatMap escapeChar)) = .ok text :=
        textOf_escaped text
      rw [ofValue, toValue, isText]
      rfl
  | array items hypothesis =>
      have isRead := itemsToValues_ofItems fun item member =>
        hypothesis item member (by omega : _ < depth - 1)
      simp [ofValue, toValue, enter_of_lt (by omega : 1 < depth), isRead, bind, Except.bind, pure,
        Except.pure]
  | object ordered members hypothesis =>
      have isRead := membersToEntries_ofMembers fun member inMembers =>
        hypothesis member inMembers (by omega : _ < depth - 1)
      simp [ofValue, toValue, enter_of_lt (by omega : 1 < depth), isRead,
        Mapping.entries_ofList ordered, bind, Except.bind, pure, Except.pure]

end Raw

end CertPress.Json
