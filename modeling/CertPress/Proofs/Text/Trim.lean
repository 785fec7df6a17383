import CertPress.Text.Blank
import Mathlib.Data.List.DropRight

/-!
# Trimmed text

A text is trimmed when neither its first nor its last character is blank.
Trimming gives such a text and leaves one as it is.
-/

namespace CertPress.Text

theorem trimStart_cons_of_blank {char : Char} (blank : isBlank char) (chars : List Char) :
    trimStart (char :: chars) = trimStart chars := by
  simp [trimStart, blank]

theorem trimStart_cons_of_not_blank {char : Char} (shown : isBlank char = false)
    (chars : List Char) : trimStart (char :: chars) = char :: chars := by
  simp [trimStart, shown]

theorem trimEnd_append_of_not_blank {char : Char} (shown : isBlank char = false)
    (chars : List Char) : trimEnd (chars ++ [char]) = chars ++ [char] := by
  simp [trimEnd, shown]

section Ends

variable {char : Char} (shown : isBlank char = false) (left right : List Char)

include shown

theorem trimStart_append_cons :
    trimStart (left ++ char :: right) = trimStart left ++ char :: right := by
  induction left with
  | nil => exact trimStart_cons_of_not_blank shown right
  | cons first rest hypothesis =>
      rw [List.cons_append]
      cases blank : isBlank first with
      | true => rw [trimStart_cons_of_blank blank, trimStart_cons_of_blank blank, hypothesis]
      | false =>
          rw [trimStart_cons_of_not_blank blank, trimStart_cons_of_not_blank blank,
            List.cons_append]

theorem trimEnd_append_cons :
    trimEnd (left ++ char :: right) = left ++ char :: trimEnd right := by
  have start := trimStart_append_cons shown right.reverse left.reverse
  rw [trimStart, trimStart] at start
  rw [trimEnd, List.reverse_append, List.reverse_cons, List.append_assoc, List.singleton_append,
    start, List.reverse_append, List.reverse_cons, List.reverse_reverse, List.append_assoc,
    List.singleton_append, trimEnd]

/-- Only the ends of a text are trimmed, on both sides of a character that is not blank. -/
theorem trim_append_cons :
    trim (left ++ char :: right) = trimStart left ++ char :: trimEnd right := by
  rw [trim, trimStart_append_cons shown, trimEnd_append_cons shown]

end Ends

@[simp] theorem trimStart_trimStart (chars : List Char) :
    trimStart (trimStart chars) = trimStart chars :=
  List.dropWhile_idempotent ..

@[simp] theorem trimEnd_trimEnd (chars : List Char) : trimEnd (trimEnd chars) = trimEnd chars := by
  rw [trimEnd, trimEnd, List.reverse_reverse]
  exact congrArg List.reverse (trimStart_trimStart chars.reverse)

@[simp] theorem trim_trimStart (chars : List Char) : trim (trimStart chars) = trim chars := by
  rw [trim, trimStart_trimStart, trim]

/-- The two ends of a text are trimmed apart from each other. -/
@[simp] theorem trim_trimEnd (chars : List Char) : trim (trimEnd chars) = trim chars := by
  by_cases shows : ∃ char ∈ chars, isBlank char = false
  · obtain ⟨char, member, shown⟩ := shows
    obtain ⟨left, right, rfl⟩ := List.append_of_mem member
    rw [trimEnd_append_cons shown, trim_append_cons shown, trim_append_cons shown,
      trimEnd_trimEnd]
  · have blank : ∀ char ∈ chars, isBlank char := by simpa using shows
    have start : trimStart chars = [] := List.dropWhile_eq_nil_iff.mpr blank
    have ending : trimEnd chars = [] := by
      rw [trimEnd, List.reverse_eq_nil_iff, List.dropWhile_eq_nil_iff]
      exact fun char member => blank char (List.mem_reverse.mp member)
    rw [ending, trim, trim, start]
    rfl

theorem trimEnd_prefix (chars : List Char) : trimEnd chars <+: chars := by
  rw [trimEnd, ← List.reverse_suffix, List.reverse_reverse]
  exact List.dropWhile_suffix isBlank

/-- The last character of a text without trailing blanks is not blank. -/
theorem isBlank_getLast?_trimEnd {char : Char} {chars : List Char}
    (last : (trimEnd chars).getLast? = some char) : isBlank char = false := by
  rw [trimEnd, List.getLast?_reverse] at last
  have shown := List.head?_dropWhile_not isBlank chars.reverse
  rw [last] at shown
  simpa using shown

theorem trim_cons_of_blank {char : Char} (blank : isBlank char) (chars : List Char) :
    trim (char :: chars) = trim chars := by
  rw [trim, trimStart_cons_of_blank blank, trim]

/-- Text in front of a trimmed one, of which the first character is not blank,
is left as it is. -/
theorem trim_cons_append {char : Char} (shown : isBlank char = false) (start : List Char)
    {chars : List Char} (filled : chars ≠ []) (trimmed : trim chars = chars) :
    trim (char :: (start ++ chars)) = char :: (start ++ chars) := by
  rw [trim, trimStart_cons_of_not_blank shown]
  obtain ⟨before, last, rfl⟩ : ∃ before last, chars = before ++ [last] :=
    ⟨_, _, (List.dropLast_concat_getLast filled).symm⟩
  have last_eq : (trimEnd (trimStart (before ++ [last]))).getLast? = some last := by
    rw [← trim, trimmed]
    simp
  have lastShown : isBlank last = false := isBlank_getLast?_trimEnd last_eq
  rw [← List.append_assoc, ← List.cons_append]
  exact trimEnd_append_of_not_blank lastShown _

/-- Nothing is trimmed off a text that has no blanks at its ends. -/
theorem trim_eq_self_of_ends {chars : List Char}
    (first : ∀ char ∈ chars.head?, isBlank char = false)
    (last : ∀ char ∈ chars.getLast?, isBlank char = false) : trim chars = chars := by
  have start : trimStart chars = chars := by
    cases chars with
    | nil => rfl
    | cons char rest => exact trimStart_cons_of_not_blank (first char rfl) rest
  rw [trim, start]
  rcases List.eq_nil_or_concat chars with rfl | ⟨front, char, rfl⟩
  · rfl
  · rw [List.concat_eq_append] at last ⊢
    exact trimEnd_append_of_not_blank (last char List.getLast?_concat) front

/-- Nothing is trimmed off a text without blanks. -/
theorem trim_eq_self {chars : List Char} (shown : ∀ char ∈ chars, isBlank char = false) :
    trim chars = chars :=
  trim_eq_self_of_ends (fun char first => shown char (List.mem_of_mem_head? first))
    fun char last => shown char (List.mem_of_getLast? last)

/-- The first character of a trimmed text is not blank. -/
theorem isBlank_head?_trim {char : Char} {chars : List Char}
    (first : (trim chars).head? = some char) : isBlank char = false := by
  obtain ⟨rest, whole⟩ := trimEnd_prefix (trimStart chars)
  have same : (trimStart chars).head? = some char := by
    rw [← whole, List.head?_append, ← trim, first]
    rfl
  have shown := List.head?_dropWhile_not isBlank chars
  rw [← trimStart.eq_def, same] at shown
  simpa using shown

/-- Text without blanks stays in front when what follows it is trimmed. -/
theorem prefix_trim {front chars : List Char} (filled : front ≠ [])
    (shown : ∀ char ∈ front, isBlank char = false) (starts : front <+: chars) :
    front <+: trim chars := by
  obtain ⟨rest, rfl⟩ := starts
  have start : trimStart (front ++ rest) = front ++ rest := by
    obtain ⟨first, others, rfl⟩ := List.exists_cons_of_ne_nil filled
    exact trimStart_cons_of_not_blank (shown first (.head _)) _
  have kept : front.reverse.dropWhile isBlank = front.reverse := by
    refine List.dropWhile_eq_self_iff.mpr fun least => ?_
    rw [shown _ (List.mem_reverse.mp (List.getElem_mem least))]
    exact Bool.false_ne_true
  rw [trim, start, trimEnd, List.reverse_append, List.dropWhile_append]
  split
  next => simp only [kept, List.reverse_reverse, List.prefix_refl]
  next =>
    rw [List.reverse_append, List.reverse_reverse]
    exact List.prefix_append _ _

@[simp] theorem trim_trim (chars : List Char) : trim (trim chars) = trim chars :=
  trim_eq_self_of_ends (fun _ => isBlank_head?_trim) fun _ => isBlank_getLast?_trimEnd

@[simp] theorem trimmed_trimmed (text : String) : trimmed (trimmed text) = trimmed text := by
  simp [trimmed]

/-- A text of which something is left when it is trimmed shows something. -/
theorem blank_eq_false_of_trimmed {text : String} (filled : trimmed text ≠ "") :
    blank text = false := by
  rw [Bool.eq_false_iff]
  intro isBlank
  apply filled
  rw [trimmed, trim, trimStart, List.dropWhile_eq_nil_iff.mpr (List.all_eq_true.mp isBlank)]
  rfl

/-- A text that is not empty and has no blanks at its ends shows something. -/
theorem blank_eq_false {text : String} (filled : text ≠ "") (same : trimmed text = text) :
    blank text = false :=
  blank_eq_false_of_trimmed (same.symm ▸ filled)

/-- A text that shows something keeps something when it is trimmed. -/
theorem trimmed_ne_empty {text : String} (shown : blank text = false) : trimmed text ≠ "" := by
  intro empty
  have noEnd : trimEnd (trimStart text.toList) = [] := by
    simpa [trimmed, trim] using congrArg String.toList empty
  rw [trimEnd, List.reverse_eq_nil_iff, List.dropWhile_eq_nil_iff] at noEnd
  have firstShown := List.head?_dropWhile_not isBlank text.toList
  cases start : trimStart text.toList with
  | nil =>
      have isBlank : blank text := List.all_eq_true.mpr (List.dropWhile_eq_nil_iff.mp start)
      simp [shown] at isBlank
  | cons first rest =>
      have firstBlank := noEnd first (by simp [start])
      rw [← trimStart.eq_def, start] at firstShown
      simp [firstBlank] at firstShown

theorem blank_append (left right : String) :
    blank (left ++ right) = (blank left && blank right) := by
  simp [blank, allBlank]

end CertPress.Text
