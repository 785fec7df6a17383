import CertPress.Proofs.Json.Layout
import CertPress.Proofs.Text.Trim

/-!
# The ends of written values

The text of a value neither starts nor ends with a blank, so nothing is lost where it is
trimmed.
-/

namespace CertPress.Json

theorem NumberLiteral.isBlank_chars {literal : NumberLiteral} (proper : literal.Proper) :
    ∀ char ∈ literal.chars, Text.isBlank char = false := by
  intro char member
  simp only [chars, List.mem_append] at member
  rcases member with isSign | isWhole | inFraction | inExponent
  · split at isSign
    next =>
      obtain rfl := List.mem_singleton.mp isSign
      decide
    next => cases isSign
  · exact Text.isBlank_eq_false_of_isDigit (proper.whole_digits char isWhole)
  · unfold fractionChars at inFraction
    cases isPart : literal.fraction with
    | none => simp [isPart] at inFraction
    | some digits =>
        rw [isPart] at inFraction
        rcases List.mem_cons.mp inFraction with rfl | inDigits
        · decide
        · exact Text.isBlank_eq_false_of_isDigit ((proper.fraction digits isPart).2 char inDigits)
  · unfold exponentChars at inExponent
    cases isPart : literal.exponent with
    | none => simp [isPart] at inExponent
    | some part =>
        obtain ⟨negative, digits⟩ := part
        rw [isPart] at inExponent
        rcases List.mem_cons.mp inExponent with rfl | inRest
        · decide
        · rcases List.mem_cons.mp inRest with rfl | inDigits
          · cases negative <;> decide
          · exact Text.isBlank_eq_false_of_isDigit ((proper.exponent _ isPart).2 char inDigits)

namespace Value

theorem exists_compactItems (items : List Value) :
    ∃ front, compactItems items = front ++ [']'] := by
  induction items with
  | nil => exact ⟨[], rfl⟩
  | cons item rest hypothesis =>
      cases rest with
      | nil => exact ⟨item.compact, rfl⟩
      | cons next others =>
          obtain ⟨front, same⟩ := hypothesis
          refine ⟨item.compact ++ ',' :: front, ?_⟩
          simp [compactItems, same]

theorem exists_compactMembers (members : List (String × Value)) :
    ∃ front, compactMembers members = front ++ ['\x7d'] := by
  induction members with
  | nil => exact ⟨[], rfl⟩
  | cons member rest hypothesis =>
      obtain ⟨key, value⟩ := member
      cases rest with
      | nil => exact ⟨quote key ++ ':' :: value.compact, rfl⟩
      | cons next others =>
          obtain ⟨front, same⟩ := hypothesis
          refine ⟨quote key ++ ':' :: value.compact ++ ',' :: front, ?_⟩
          simp [compactMembers, same]

/-- The text of a value neither starts nor ends with a blank. -/
theorem trim_compact (value : Value) : Text.trim value.compact = value.compact := by
  have enclosed {first last : Char} (front : List Char) (startsShown : Text.isBlank first = false)
      (endsShown : Text.isBlank last = false) :
      Text.trim (first :: (front ++ [last])) = first :: (front ++ [last]) := by
    refine Text.trim_eq_self_of_ends (fun char isFirst => ?_) fun char isLast => ?_
    · obtain rfl : first = char := by simpa using isFirst
      exact startsShown
    · rw [← List.cons_append, List.getLast?_concat] at isLast
      obtain rfl : last = char := by simpa using isLast
      exact endsShown
  cases value with
  | null => decide
  | bool value => cases value <;> decide
  | number number =>
      obtain ⟨literal, proper, same⟩ := number.exists_literal
      rw [compact, ← same]
      exact Text.trim_eq_self (NumberLiteral.isBlank_chars proper)
  | string text => exact enclosed _ (by decide) (by decide)
  | array items =>
      obtain ⟨front, same⟩ := exists_compactItems items
      rw [compact, same]
      exact enclosed front (by decide) (by decide)
  | object members =>
      obtain ⟨front, same⟩ := exists_compactMembers members
      rw [compact, same]
      exact enclosed front (by decide) (by decide)

@[simp] theorem trimmed_text (value : Value) : Text.trimmed value.text = value.text := by
  rw [Text.trimmed, text, String.toList_ofList, trim_compact]

end Value

/-- The text of a number shows something. -/
theorem Number.blank_chars (number : Number) : Text.blank (String.ofList number.chars) = false := by
  obtain ⟨first, others, filled, -⟩ := Raw.head_chars number
  exact Text.blank_eq_false (by simp [filled]) (Value.trimmed_text (.number number))

end CertPress.Json
