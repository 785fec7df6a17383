import CertPress.Text.Pieces
import Mathlib.Data.List.Infix
import Mathlib.Order.Bounds.Basic

/-!
# Where text is cut

A pattern is found exactly when it occurs, and a text is cut in front of an
occurrence of the pattern when none begins before that one.
-/

namespace CertPress.Text

variable {pattern before after chars : List Char}

theorem after?_eq_some_iff {start rest : List Char} :
    after? start chars = some rest ↔ chars = start ++ rest := by
  rw [after?]
  constructor
  · intro found
    split at found
    next starts =>
      obtain rfl := Option.some.inj found
      exact (List.prefix_iff_eq_append.mp (List.isPrefixOf_iff_prefix.mp starts)).symm
    next => exact absurd found (by simp)
  · rintro rfl
    simp

theorem cut?_eq_none (absent : ¬ pattern <:+: chars) : cut? pattern chars = none := by
  cases found : cut? pattern chars with
  | none => rfl
  | some pieces => exact absurd ⟨pieces.1, pieces.2, (cut?_eq_some found).symm⟩ absent

theorem cutLast?_eq_none (absent : ¬ pattern <:+: chars) : cutLast? pattern chars = none := by
  cases found : cutLast? pattern chars with
  | none => rfl
  | some pieces => exact absurd ⟨pieces.1, pieces.2, (cutLast?_eq_some found).symm⟩ absent

/-- An occurrence of the pattern is the first one if the text up to its last
character, which is left out, holds none. -/
theorem cut?_append (filled : pattern ≠ []) (first : ¬ pattern <:+: before ++ pattern.dropLast) :
    cut? pattern (before ++ (pattern ++ after)) = some (before, after) := by
  induction before with
  | nil =>
      cases pattern with
      | nil => exact absurd rfl filled
      | cons char rest =>
          have starts : (char :: rest).isPrefixOf (char :: (rest ++ after)) :=
            List.isPrefixOf_iff_prefix.mpr ⟨after, rfl⟩
          rw [List.nil_append, List.cons_append, cut?, if_pos starts]
          simp
  | cons char rest hypothesis =>
      have later : ¬ pattern <:+: rest ++ pattern.dropLast :=
        fun occurs => first (List.infix_cons occurs)
      have starts : ¬ pattern.isPrefixOf (char :: (rest ++ (pattern ++ after))) := by
        intro starts
        apply first
        have short : pattern.length ≤ (char :: (rest ++ pattern.dropLast)).length := by
          simp only [List.length_cons, List.length_append, List.length_dropLast]
          omega
        have whole : char :: (rest ++ pattern.dropLast) <+:
            char :: (rest ++ (pattern ++ after)) := by
          refine ⟨pattern.getLast filled :: after, ?_⟩
          rw [List.cons_append, List.append_assoc, List.append_cons,
            List.dropLast_concat_getLast filled]
        exact (List.prefix_of_prefix_length_le (List.isPrefixOf_iff_prefix.mp starts) whole
          short).isInfix
      rw [List.cons_append, cut?, if_neg starts, hypothesis later]
      rfl

/-- The text in front of the first occurrence holds none, not even with the
pattern's own start behind it. -/
theorem not_infix_of_cut? (filled : pattern ≠ [])
    (found : cut? pattern chars = some (before, after)) :
    ¬ pattern <:+: before ++ pattern.dropLast := by
  induction chars generalizing before with
  | nil =>
      rw [cut?] at found
      split at found
      next none => exact absurd (List.isEmpty_iff.mp none) filled
      next => exact absurd found (by simp)
  | cons char rest hypothesis =>
      rw [cut?] at found
      split at found
      next =>
        simp only [Option.some.injEq, Prod.mk.injEq] at found
        obtain ⟨rfl, -⟩ := found
        intro occurs
        have shorter := occurs.length_le
        have length_pos := List.length_pos_iff.mpr filled
        simp only [List.nil_append, List.length_dropLast] at shorter
        omega
      next notHere =>
        simp only [Option.map_eq_some_iff, Prod.exists, Prod.mk.injEq] at found
        obtain ⟨inner, _, cutRest, rfl, rfl⟩ := found
        rw [List.cons_append, List.infix_cons_iff, not_or]
        refine ⟨fun starts => notHere ?_, hypothesis cutRest⟩
        have whole := cut?_eq_some cutRest
        have shorter : char :: (inner ++ pattern.dropLast) <+: char :: rest := by
          rw [whole, List.append_assoc]
          exact List.cons_prefix_cons.mpr ⟨rfl, List.prefix_append_right_inj inner |>.mpr
            ((List.dropLast_prefix _).trans (List.prefix_append _ _))⟩
        exact List.isPrefixOf_iff_prefix.mpr (starts.trans shorter)

/-- A text that is cut nowhere holds no occurrence. -/
theorem not_infix_of_cut?_eq_none (none : cut? pattern chars = none) : ¬ pattern <:+: chars := by
  induction chars with
  | nil =>
      intro occurs
      obtain rfl := List.infix_nil.mp occurs
      simp [cut?] at none
  | cons char rest hypothesis =>
      rw [cut?] at none
      split at none
      next => exact absurd none (by simp)
      next notHere =>
        rw [List.infix_cons_iff, not_or, ← List.isPrefixOf_iff_prefix]
        exact ⟨notHere, hypothesis (by simpa using none)⟩

/-- What stands behind the first occurrence of the pattern is the longest text behind
one. -/
theorem suffix_of_cut? (found : cut? pattern chars = some (before, after))
    {front behind : List Char} (occurs : chars = front ++ (pattern ++ behind)) :
    behind <:+ after := by
  induction chars generalizing before front with
  | nil =>
      obtain ⟨-, -, rfl⟩ : front = [] ∧ pattern = [] ∧ behind = [] := by simpa using occurs.symm
      exact List.nil_suffix
  | cons char rest hypothesis =>
      rw [cut?] at found
      split at found
      next =>
        obtain ⟨-, rfl⟩ : [] = before ∧ (char :: rest).drop pattern.length = after := by
          simpa using found
        have length_eq := congrArg List.length occurs
        simp only [List.length_append] at length_eq
        refine List.suffix_of_suffix_length_le ⟨front ++ pattern, ?_⟩ (List.drop_suffix _ _) ?_
        · rw [occurs, List.append_assoc]
        · rw [List.length_drop]
          omega
      next notHere =>
        simp only [Option.map_eq_some_iff, Prod.exists, Prod.mk.injEq] at found
        obtain ⟨inner, _, cutRest, -, rfl⟩ := found
        cases front with
        | nil => exact absurd (List.isPrefixOf_iff_prefix.mpr ⟨behind, occurs.symm⟩) notHere
        | cons first others => exact hypothesis cutRest (List.cons.inj occurs).2

theorem not_infix_of_cutLast?_eq_none (none : cutLast? pattern chars = none) :
    ¬ pattern <:+: chars := by
  induction chars with
  | nil =>
      intro occurs
      obtain rfl := List.infix_nil.mp occurs
      simp [cutLast?] at none
  | cons char rest hypothesis =>
      rw [cutLast?] at none
      split at none
      next => exact absurd none (by simp)
      next restNone =>
        split at none
        next => exact absurd none (by simp)
        next notHere =>
          rw [List.infix_cons_iff, not_or, ← List.isPrefixOf_iff_prefix]
          exact ⟨notHere, hypothesis restNone⟩

/-- No occurrence begins behind the first character of the last one. -/
theorem not_infix_of_cutLast? (filled : pattern ≠ [])
    (found : cutLast? pattern chars = some (before, after)) :
    ¬ pattern <:+: pattern.tail ++ after := by
  induction chars generalizing before after with
  | nil =>
      rw [cutLast?] at found
      split at found
      next none => exact absurd (List.isEmpty_iff.mp none) filled
      next => exact absurd found (by simp)
  | cons char rest hypothesis =>
      rw [cutLast?] at found
      split at found
      next inner tail cutRest =>
        obtain ⟨-, rfl⟩ : char :: inner = before ∧ tail = after := by simpa using found
        exact hypothesis cutRest
      next restNone =>
        split at found
        next starts =>
          obtain ⟨-, rfl⟩ : [] = before ∧ (char :: rest).drop pattern.length = after := by
            simpa using found
          have whole := List.prefix_iff_eq_append.mp (List.isPrefixOf_iff_prefix.mp starts)
          have rest_eq : pattern.tail ++ (char :: rest).drop pattern.length = rest := by
            rw [← List.tail_append_of_ne_nil filled, whole, List.tail_cons]
          rw [rest_eq]
          exact not_infix_of_cutLast?_eq_none restNone
        next => exact absurd found (by simp)

/-- What stands behind a text does not move its first occurrence. -/
theorem cut?_append_right (filled : pattern ≠ [])
    (found : cut? pattern chars = some (before, after)) (more : List Char) :
    cut? pattern (chars ++ more) = some (before, after ++ more) := by
  have whole : chars ++ more = before ++ (pattern ++ (after ++ more)) := by
    simp [cut?_eq_some found]
  rw [whole]
  exact cut?_append filled (not_infix_of_cut? filled found)

/-- The last mark of a text has none behind it. -/
theorem cutLast?_mark {mark : Char} (free : mark ∉ after) :
    cutLast? [mark] (before ++ mark :: after) = some (before, after) := by
  induction before with
  | nil =>
      have none : cutLast? [mark] after = none :=
        cutLast?_eq_none fun occurs => free ((List.singleton_infix_iff _ _).mp occurs)
      simp [cutLast?, none]
  | cons char rest hypothesis => rw [List.cons_append, cutLast?, hypothesis]

/-- A part that follows a text behind a mark, if there is one, is cut off at the
mark. -/
theorem cut?_part {mark : Char} (free : mark ∉ before) (part : Option (List Char)) :
    cut? [mark] (before ++ (part.map (mark :: ·)).getD []) = part.map (before, ·) := by
  have absent : ¬ [mark] <:+: before := fun occurs =>
    free ((List.singleton_infix_iff _ _).mp occurs)
  cases part with
  | none => simpa using cut?_eq_none absent
  | some after => exact cut?_append (List.cons_ne_nil _ _) (by simpa using absent)

/-! ## Places of a pattern -/

/-- Whether a pattern stands at a place of a text. -/
def OccursAt (pattern chars : List Char) (place : Nat) : Prop := pattern <+: chars.drop place

instance (pattern chars : List Char) (place : Nat) : Decidable (OccursAt pattern chars place) :=
  inferInstanceAs (Decidable (pattern <+: chars.drop place))

section Places

variable {place : Nat}

theorem OccursAt.isInfix (occurs : OccursAt pattern chars place) : pattern <:+: chars :=
  List.IsInfix.trans (List.IsPrefix.isInfix occurs) (List.drop_suffix place chars).isInfix

theorem OccursAt.le_length (occurs : OccursAt pattern chars place) (filled : pattern ≠ []) :
    place + pattern.length ≤ chars.length := by
  have shorter := List.IsPrefix.length_le occurs
  have length_pos := List.length_pos_iff.mpr filled
  rw [List.length_drop] at shorter
  omega

/-- A pattern that stands behind a text stands at the same place of what is behind it. -/
theorem occursAt_append_right (before chars : List Char) (place : Nat) :
    OccursAt pattern (before ++ chars) (before.length + place) ↔ OccursAt pattern chars place := by
  rw [OccursAt, List.drop_append, List.drop_eq_nil_of_le (by omega), List.nil_append,
    Nat.add_sub_cancel_left, OccursAt]

/-- What stands behind a text does not matter to a pattern that ends inside the text. -/
theorem occursAt_append_left (ends : place + pattern.length ≤ chars.length) (after : List Char) :
    OccursAt pattern (chars ++ after) place ↔ OccursAt pattern chars place := by
  have inside : place ≤ chars.length := by omega
  rw [OccursAt, OccursAt, List.drop_append_of_le_length inside]
  refine ⟨fun starts => ?_, fun starts => starts.trans (List.prefix_append _ _)⟩
  exact List.prefix_of_prefix_length_le starts (List.prefix_append _ _)
    (by rw [List.length_drop]; omega)

/-- A text is cut at the first place of the pattern. -/
theorem isLeast_cut? (filled : pattern ≠ []) (found : cut? pattern chars = some (before, after)) :
    IsLeast {place | OccursAt pattern chars place} before.length := by
  induction chars generalizing before with
  | nil =>
      rw [cut?, if_neg (by simpa using filled)] at found
      cases found
  | cons char rest hypothesis =>
      rw [cut?] at found
      split at found
      next here =>
        obtain ⟨rfl, -⟩ : [] = before ∧ (char :: rest).drop pattern.length = after := by
          simpa using found
        exact ⟨List.isPrefixOf_iff_prefix.mp here, fun place _ => Nat.zero_le place⟩
      next notHere =>
        simp only [Option.map_eq_some_iff, Prod.exists, Prod.mk.injEq] at found
        obtain ⟨inner, _, cutRest, rfl, rfl⟩ := found
        obtain ⟨occurs, least⟩ := hypothesis cutRest
        refine ⟨occurs, fun place isThere => ?_⟩
        cases place with
        | zero => exact absurd (List.isPrefixOf_iff_prefix.mpr isThere) notHere
        | succ place => exact Nat.succ_le_succ (least isThere)

/-- The last occurrence of a pattern is at its last place. -/
theorem isGreatest_cutLast? (filled : pattern ≠ [])
    (found : cutLast? pattern chars = some (before, after)) :
    IsGreatest {place | OccursAt pattern chars place} before.length := by
  induction chars generalizing before after with
  | nil =>
      rw [cutLast?, if_neg (by simpa using filled)] at found
      cases found
  | cons char rest hypothesis =>
      rw [cutLast?] at found
      split at found
      next inner tail cutRest =>
        obtain ⟨rfl, -⟩ : char :: inner = before ∧ tail = after := by simpa using found
        obtain ⟨occurs, greatest⟩ := hypothesis cutRest
        refine ⟨occurs, fun place isThere => ?_⟩
        cases place with
        | zero => exact Nat.zero_le _
        | succ place => exact Nat.succ_le_succ (greatest isThere)
      next none =>
        split at found
        next here =>
          obtain ⟨rfl, -⟩ : [] = before ∧ (char :: rest).drop pattern.length = after := by
            simpa using found
          refine ⟨List.isPrefixOf_iff_prefix.mp here, fun place isThere => ?_⟩
          cases place with
          | zero => exact Nat.le_refl 0
          | succ place =>
              have later : OccursAt pattern rest place := isThere
              exact absurd later.isInfix (not_infix_of_cutLast?_eq_none none)
        next => cases found


theorem isGreatest_append {pattern chars : List Char} {place : Nat}
    (greatest : IsGreatest {place | OccursAt pattern chars place} place) (before : List Char) :
    IsGreatest {place | OccursAt pattern (before ++ chars) place} (before.length + place) := by
  obtain ⟨occurs, isGreatest⟩ := greatest
  refine ⟨(occursAt_append_right before chars place).mpr occurs, fun other isThere => ?_⟩
  by_cases inside : other < before.length
  · omega
  · obtain ⟨behind, rfl⟩ := Nat.exists_eq_add_of_le (Nat.le_of_not_lt inside)
    have least := isGreatest ((occursAt_append_right before chars behind).mp isThere)
    omega

end Places

/-! ## Pairs -/

/-- A pair of equal characters in two texts put together lies in one of them, or
its halves meet where the texts do. -/
theorem pair_infix_append {char : Char} {left right : List Char}
    (occurs : [char, char] <:+: left ++ right) :
    [char, char] <:+: left ∨ [char, char] <:+: right ∨
      (left.getLast? = some char ∧ right.head? = some char) := by
  rcases List.infix_append_iff.mp occurs with
    inLeft | inRight | ⟨first, second, pair, atEnd, atStart⟩
  · exact .inl inLeft
  · exact .inr (.inl inRight)
  · rcases first with _ | ⟨one, _ | ⟨two, none⟩⟩
    · exact .inr (.inl (pair.symm ▸ atStart.isInfix))
    · obtain ⟨rfl, rfl⟩ : char = one ∧ [char] = second := by simpa using pair
      obtain ⟨front, rfl⟩ := atEnd
      obtain ⟨behind, rfl⟩ := atStart
      exact .inr (.inr ⟨by simp, by simp⟩)
    · obtain ⟨rfl, rfl, rfl, rfl⟩ : char = one ∧ char = two ∧ none = [] ∧ second = [] := by
        simpa using pair
      exact .inl atEnd.isInfix

/-- No pair comes about where two texts without one are put together, unless its
halves meet there. -/
theorem not_pair_infix_append {char : Char} {left right : List Char}
    (freeLeft : ¬ [char, char] <:+: left) (freeRight : ¬ [char, char] <:+: right)
    (apart : left.getLast? = some char → right.head? ≠ some char) :
    ¬ [char, char] <:+: left ++ right := by
  intro occurs
  rcases pair_infix_append occurs with inLeft | inRight | ⟨atEnd, atStart⟩
  · exact freeLeft inLeft
  · exact freeRight inRight
  · exact apart atEnd atStart

/-- A pair is found behind a text that holds none and does not end in half of one
where it is found without that text. -/
theorem cut?_pair_append {char : Char} {left : List Char} (free : ¬ [char, char] <:+: left)
    (last : left.getLast? ≠ some char) (right : List Char) :
    cut? [char, char] (left ++ right) =
      (cut? [char, char] right).map fun (before, after) => (left ++ before, after) := by
  cases found : cut? [char, char] right with
  | none =>
      have freeRight := not_infix_of_cut?_eq_none found
      exact cut?_eq_none (not_pair_infix_append free freeRight fun ends => absurd ends last)
  | some pieces =>
      obtain ⟨before, after⟩ := pieces
      have freeRight := not_infix_of_cut? (List.cons_ne_nil _ _) found
      have whole : left ++ right = (left ++ before) ++ ([char, char] ++ after) := by
        simp [cut?_eq_some found]
      rw [whole]
      apply cut?_append (List.cons_ne_nil _ _)
      rw [List.append_assoc]
      exact not_pair_infix_append free freeRight fun ends => absurd ends last

theorem getLast?_append_ne {char : Char} {left right : List Char}
    (endsLeft : left.getLast? ≠ some char) (endsRight : right.getLast? ≠ some char) :
    (left ++ right).getLast? ≠ some char := by
  rw [List.getLast?_append]
  cases ends : right.getLast? with
  | none => simpa using endsLeft
  | some last => simpa [ends] using endsRight

theorem head?_append_ne {char : Char} {left right : List Char}
    (startsLeft : left.head? ≠ some char) (startsRight : right.head? ≠ some char) :
    (left ++ right).head? ≠ some char := by
  cases left with
  | nil => exact startsRight
  | cons first rest => exact startsLeft

end CertPress.Text
