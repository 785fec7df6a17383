/-!
# Cutting text into pieces

Searching for a pattern and cutting text at it.  `cut?` finds the first
occurrence and `cutLast?` the last; in both results the pieces around the
pattern make up the text again.
-/

namespace CertPress.Text

/-- The text before and after the first occurrence of `pattern`. -/
def cut? (pattern : List Char) : List Char → Option (List Char × List Char)
  | [] => if pattern.isEmpty then some ([], []) else none
  | char :: rest =>
      if pattern.isPrefixOf (char :: rest) then
        some ([], (char :: rest).drop pattern.length)
      else
        (cut? pattern rest).map fun (before, after) => (char :: before, after)

/-- The text before and after the last occurrence of `pattern`. -/
def cutLast? (pattern : List Char) : List Char → Option (List Char × List Char)
  | [] => if pattern.isEmpty then some ([], []) else none
  | char :: rest =>
      match cutLast? pattern rest with
      | some (before, after) => some (char :: before, after)
      | none =>
          if pattern.isPrefixOf (char :: rest) then
            some ([], (char :: rest).drop pattern.length)
          else none

/-- The pieces between the occurrences of `separator`; one more piece than
there are separators. -/
def split (separator : Char) : List Char → List (List Char)
  | [] => [[]]
  | char :: rest =>
      if char = separator then [] :: split separator rest
      else match split separator rest with
        | [] => [[char]]
        | piece :: pieces => (char :: piece) :: pieces

/-- The text after `start`, if the text starts with it. -/
def after? (start : List Char) (chars : List Char) : Option (List Char) :=
  if start.isPrefixOf chars then some (chars.drop start.length) else none

/-- The text without its leading characters `char`. -/
def dropLeading (char : Char) (chars : List Char) : List Char :=
  chars.dropWhile (· == char)

/-- The text without its trailing characters `char`. -/
def dropTrailing (char : Char) (chars : List Char) : List Char :=
  (chars.reverse.dropWhile (· == char)).reverse

/-- A string without its leading characters `char`. -/
def withoutLeading (char : Char) (text : String) : String :=
  String.ofList (dropLeading char text.toList)

/-- A string without its trailing characters `char`. -/
def withoutTrailing (char : Char) (text : String) : String :=
  String.ofList (dropTrailing char text.toList)

/-- A string without leading and trailing characters `char`. -/
def withoutSurrounding (char : Char) (text : String) : String :=
  String.ofList (dropTrailing char (dropLeading char text.toList))

/-- The pieces with one `separator` between each two. -/
def join (separator : Char) : List (List Char) → List Char
  | [] => []
  | [piece] => piece
  | piece :: rest => piece ++ separator :: join separator rest

theorem cut?_eq_some {pattern chars before after : List Char}
    (found : cut? pattern chars = some (before, after)) :
    chars = before ++ pattern ++ after := by
  induction chars generalizing before with
  | nil =>
      simp only [cut?] at found
      split at found <;> simp_all
  | cons char rest hypothesis =>
      simp only [cut?] at found
      split at found
      next starts =>
        obtain ⟨tail, whole⟩ := List.isPrefixOf_iff_prefix.mp starts
        simp only [Option.some.injEq, Prod.mk.injEq] at found
        obtain ⟨rfl, rfl⟩ := found
        rw [← whole]
        simp
      next =>
        simp only [Option.map_eq_some_iff, Prod.exists, Prod.mk.injEq] at found
        obtain ⟨inner, _, cutRest, rfl, rfl⟩ := found
        simp [hypothesis cutRest]

theorem cutLast?_eq_some {pattern chars before after : List Char}
    (found : cutLast? pattern chars = some (before, after)) :
    chars = before ++ pattern ++ after := by
  induction chars generalizing before after with
  | nil =>
      simp only [cutLast?] at found
      split at found <;> simp_all
  | cons char rest hypothesis =>
      simp only [cutLast?] at found
      split at found
      next inner tail cutRest =>
        simp only [Option.some.injEq, Prod.mk.injEq] at found
        obtain ⟨rfl, rfl⟩ := found
        simp [hypothesis cutRest]
      next =>
        split at found
        next starts =>
          obtain ⟨tail, whole⟩ := List.isPrefixOf_iff_prefix.mp starts
          simp only [Option.some.injEq, Prod.mk.injEq] at found
          obtain ⟨rfl, rfl⟩ := found
          rw [← whole]
          simp
        next => simp at found

@[simp] theorem split_ne_nil (separator : Char) (chars : List Char) :
    split separator chars ≠ [] := by
  cases chars with
  | nil => simp [split]
  | cons char rest =>
      simp only [split]
      split
      · simp
      · split <;> simp

/-- Joining the pieces of a split gives the text again. -/
@[simp] theorem join_split (separator : Char) (chars : List Char) :
    join separator (split separator chars) = chars := by
  induction chars with
  | nil => rfl
  | cons char rest hypothesis =>
      simp only [split]
      split
      next same =>
        subst same
        cases pieces : split char rest with
        | nil => exact absurd pieces (split_ne_nil _ _)
        | cons piece others =>
            rw [pieces] at hypothesis
            simp [join, hypothesis]
      next =>
        cases pieces : split separator rest with
        | nil => exact absurd pieces (split_ne_nil _ _)
        | cons piece others =>
            rw [pieces] at hypothesis
            cases others with
            | nil => simpa [join] using hypothesis
            | cons other others => simpa [join] using hypothesis

end CertPress.Text
