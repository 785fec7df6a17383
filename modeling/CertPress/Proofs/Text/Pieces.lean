import CertPress.Text.Pieces
import Mathlib.Data.List.Infix

/-!
# Pieces of text

A text is cut at every separator, so pieces that hold none are found again when they
were put together.
-/

namespace CertPress.Text

theorem split_append (separator : Char) (left right : List Char) :
    split separator (left ++ separator :: right) =
      split separator left ++ split separator right := by
  induction left with
  | nil => simp [split]
  | cons char rest hypothesis =>
      rw [List.cons_append, split, split, hypothesis]
      split
      next => rfl
      next =>
        cases pieces : split separator rest with
        | nil => exact absurd pieces (split_ne_nil _ _)
        | cons first others => rfl

/-- A text has one piece more than separators. -/
theorem length_split (separator : Char) (chars : List Char) :
    (split separator chars).length = chars.count separator + 1 := by
  induction chars with
  | nil => rfl
  | cons char rest hypothesis =>
      rw [split]
      split
      next same =>
        subst same
        rw [List.length_cons, hypothesis, List.count_cons_self]
      next other =>
        rw [List.count_cons_of_ne other]
        cases pieces : split separator rest with
        | nil => exact absurd pieces (split_ne_nil _ _)
        | cons piece others =>
            rw [← hypothesis, pieces]
            rfl

theorem split_eq_singleton {separator : Char} {piece : List Char} (free : separator ∉ piece) :
    split separator piece = [piece] := by
  induction piece with
  | nil => rfl
  | cons char rest hypothesis =>
      rw [List.mem_cons, not_or] at free
      rw [split, if_neg (Ne.symm free.1), hypothesis free.2]

/-- A text is cut at its first separator in one way. -/
theorem append_separator_inj {separator : Char} {left right other behind : List Char}
    (free : separator ∉ left) (otherFree : separator ∉ other) :
    left ++ separator :: right = other ++ separator :: behind ↔ left = other ∧ right = behind := by
  constructor
  · intro same
    have pieces := congrArg (split separator) same
    rw [split_append, split_append, split_eq_singleton free, split_eq_singleton otherFree] at pieces
    obtain rfl : left = other := (List.cons.inj pieces).1
    exact ⟨rfl, (List.cons.inj (List.append_cancel_left same)).2⟩
  · rintro ⟨rfl, rfl⟩
    rfl

theorem not_mem_of_mem_split {separator : Char} {chars piece : List Char}
    (member : piece ∈ split separator chars) : separator ∉ piece := by
  induction chars generalizing piece with
  | nil => simp_all [split]
  | cons char rest hypothesis =>
      rw [split] at member
      split at member
      next =>
        rcases List.mem_cons.mp member with rfl | inRest
        · exact List.not_mem_nil
        · exact hypothesis inRest
      next other =>
        cases pieces : split separator rest with
        | nil => exact absurd pieces (split_ne_nil _ _)
        | cons first others =>
            rw [pieces] at member hypothesis
            rcases List.mem_cons.mp member with rfl | inOthers
            · have free := hypothesis (.head _)
              simpa [Ne.symm other] using free
            · exact hypothesis (.tail _ inOthers)

/-- Pieces without the separator are found again after they were joined. -/
theorem split_join {separator : Char} {pieces : List (List Char)} (filled : pieces ≠ [])
    (free : ∀ piece ∈ pieces, separator ∉ piece) :
    split separator (join separator pieces) = pieces := by
  induction pieces with
  | nil => exact absurd rfl filled
  | cons piece rest hypothesis =>
      have pieceSplit := split_eq_singleton (free piece (.head _))
      cases rest with
      | nil => exact pieceSplit
      | cons next others =>
          rw [join, split_append, pieceSplit,
            hypothesis (by simp) fun other inRest => free other (.tail _ inRest)]
          · rfl
          · simp

theorem mem_join {separator char : Char} {pieces : List (List Char)}
    (member : char ∈ join separator pieces) :
    char = separator ∨ ∃ piece ∈ pieces, char ∈ piece := by
  induction pieces with
  | nil => exact absurd member List.not_mem_nil
  | cons piece rest hypothesis =>
      cases rest with
      | nil => exact .inr ⟨piece, .head _, member⟩
      | cons next others =>
          rw [join, List.mem_append, List.mem_cons] at member
          rcases member with inPiece | same | inRest
          · exact .inr ⟨piece, .head _, inPiece⟩
          · exact .inl same
          · rcases hypothesis inRest with same | ⟨other, inOthers, inOther⟩
            · exact .inl same
            · exact .inr ⟨other, .tail _ inOthers, inOther⟩
          · simp

theorem mem_join_of_mem {separator char : Char} {pieces : List (List Char)} {piece : List Char}
    (inPieces : piece ∈ pieces) (member : char ∈ piece) : char ∈ join separator pieces := by
  induction inPieces with
  | @head rest =>
      cases rest with
      | nil => exact member
      | cons next others => exact List.mem_append_left _ member
  | @tail first rest inRest hypothesis =>
      cases rest with
      | nil => exact absurd inRest List.not_mem_nil
      | cons next others => exact List.mem_append_right _ (.tail _ hypothesis)

/-- Pieces with a separator in front of each are joined behind the first one. -/
theorem flatMap_eq_join {separator : Char} {pieces : List (List Char)} (filled : pieces ≠ []) :
    pieces.flatMap (separator :: ·) = separator :: join separator pieces := by
  induction pieces with
  | nil => exact absurd rfl filled
  | cons piece rest hypothesis =>
      cases rest with
      | nil => simp [join]
      | cons next others =>
          rw [List.flatMap_cons, hypothesis (by simp)]
          rfl

/-- Pieces with a separator in front of each are found again after it. -/
theorem split_flatMap {separator : Char} {pieces : List (List Char)}
    (free : ∀ piece ∈ pieces, separator ∉ piece) :
    split separator (pieces.flatMap (separator :: ·)) = [] :: pieces := by
  cases pieces with
  | nil => rfl
  | cons piece rest =>
      rw [flatMap_eq_join (List.cons_ne_nil _ _), split, if_pos rfl,
        split_join (List.cons_ne_nil _ _) free]

/-- Fewer pieces make up less text. -/
theorem join_sublist {separator : Char} {fewer pieces : List (List Char)}
    (sub : fewer.Sublist pieces) : (join separator fewer).Sublist (join separator pieces) := by
  induction sub with
  | slnil => exact .slnil
  | @cons fewer pieces piece sub hypothesis =>
      cases pieces with
      | nil => simp_all [join]
      | cons next others => exact (hypothesis.cons separator).trans (List.sublist_append_right _ _)
  | @cons_cons fewer pieces piece sub hypothesis =>
      cases fewer with
      | nil =>
          cases pieces with
          | nil => exact .refl _
          | cons next others => exact List.sublist_append_left _ _
      | cons first rest =>
          cases pieces with
          | nil => exact absurd sub.length_le (by simp)
          | cons next others => exact (hypothesis.cons_cons separator).append_left piece

theorem join_concat {separator : Char} {front : List (List Char)} (filled : front ≠ [])
    (piece : List Char) :
    join separator (front ++ [piece]) = join separator front ++ separator :: piece := by
  induction front with
  | nil => exact absurd rfl filled
  | cons first rest hypothesis =>
      cases rest with
      | nil => rfl
      | cons next others =>
          have later := hypothesis (List.cons_ne_nil _ _)
          simp only [List.cons_append, join] at later ⊢
          rw [later, List.append_assoc, List.cons_append]

/-- A text of pieces ends as the last of them does. -/
theorem getLast?_join_concat (separator : Char) (front : List (List Char)) {piece : List Char}
    (filled : piece ≠ []) :
    (join separator (front ++ [piece])).getLast? = piece.getLast? := by
  rcases eq_or_ne front [] with rfl | some
  · rfl
  · rw [join_concat some, List.getLast?_append, List.getLast?_cons,
      List.getLast?_eq_some_getLast filled]
    rfl

/-! ## Characters at the ends -/

theorem dropLeading_replicate {char : Char} (count : Nat) (chars : List Char) :
    dropLeading char (List.replicate count char ++ chars) = dropLeading char chars := by
  rw [dropLeading, List.dropWhile_append_of_pos (by simp [List.mem_replicate]), dropLeading]

theorem dropTrailing_replicate {char : Char} (chars : List Char) (count : Nat) :
    dropTrailing char (chars ++ List.replicate count char) = dropTrailing char chars := by
  have start : (List.replicate count char ++ chars.reverse).dropWhile (· == char) =
      chars.reverse.dropWhile (· == char) := dropLeading_replicate count chars.reverse
  rw [dropTrailing, List.reverse_append, List.reverse_replicate, start, dropTrailing]

/-- Nothing is dropped at the start of a text but the character. -/
theorem eq_dropLeading (char : Char) (chars : List Char) :
    ∃ count, chars = List.replicate count char ++ dropLeading char chars := by
  have dropped : chars.takeWhile (· == char) =
      List.replicate (chars.takeWhile (· == char)).length char := by
    refine List.eq_replicate_of_mem fun other member => ?_
    simpa using List.all_eq_true.mp List.all_takeWhile other member
  refine ⟨(chars.takeWhile (· == char)).length, ?_⟩
  rw [← dropped, dropLeading, List.takeWhile_append_dropWhile]

/-- Nothing is dropped at the end of a text but the character. -/
theorem eq_dropTrailing (char : Char) (chars : List Char) :
    ∃ count, chars = dropTrailing char chars ++ List.replicate count char := by
  obtain ⟨count, reversed⟩ := eq_dropLeading char chars.reverse
  refine ⟨count, ?_⟩
  apply List.reverse_injective
  rw [List.reverse_append, List.reverse_replicate, dropTrailing, List.reverse_reverse]
  exact reversed

end CertPress.Text
