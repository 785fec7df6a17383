import CertPress.Shell.Pattern

/-!
# Fields

A word becomes characters that remember how they were written.  From them come
the arguments of a command, a text in one piece, or a pattern.
-/

namespace CertPress.Shell

/-- A character of a word, or a mark between characters. -/
inductive Atom where
  /-- A character of the script that is not quoted. -/
  | plain (char : Char)
  /-- A character of a value that is not quoted. -/
  | value (char : Char)
  /-- A quoted character. -/
  | literal (char : Char)
  /-- A place where the word has a part, even if it is empty. -/
  | present
  /-- The end of a field. -/
  | cut
  deriving DecidableEq, Repr, Inhabited

/-- The characters that separate fields unless a script says otherwise. -/
def standardSeparators : List Char := [' ', '\t', '\n']

/-- A field whose characters remember whether they are quoted. -/
abbrev Field := List PatternChar

/-- The text of a field. -/
def Field.text (field : Field) : String := String.ofList (field.map (·.char))

/-- The fields of a word.  The characters of the field that was begun are in
reverse.  After blanks that ended a field one other separator ends nothing. -/
def fieldsFrom (separators : List Char) (afterBlank : Bool) (begun : Option Field) :
    List Atom → List Field
  | [] => (begun.map List.reverse).toList
  | .present :: rest => fieldsFrom separators false (some (begun.getD [])) rest
  | .cut :: rest =>
      (begun.map List.reverse).toList ++ fieldsFrom separators false none rest
  | .plain char :: rest =>
      fieldsFrom separators false (some (⟨char, false⟩ :: begun.getD [])) rest
  | .literal char :: rest =>
      fieldsFrom separators false (some (⟨char, true⟩ :: begun.getD [])) rest
  | .value char :: rest =>
      if !separators.contains char then
        fieldsFrom separators false (some (⟨char, false⟩ :: begun.getD [])) rest
      else if standardSeparators.contains char then
        (begun.map List.reverse).toList ++
          fieldsFrom separators (afterBlank || begun.isSome) none rest
      else if afterBlank then fieldsFrom separators false none rest
      else (begun.getD []).reverse :: fieldsFrom separators false none rest

/-- The fields of a word. -/
def fieldsOf (separators : List Char) (atoms : List Atom) : List Field :=
  fieldsFrom separators false none atoms

/-- The word as one text. -/
def textOfAtoms (atoms : List Atom) : List Char :=
  atoms.filterMap fun atom =>
    match atom with
    | .plain char => some char
    | .value char => some char
    | .literal char => some char
    | .present => none
    | .cut => some ' '

/-- The word as a pattern. -/
def patternOfAtoms (atoms : List Atom) : Pattern :=
  Pattern.ofChars (atoms.filterMap fun atom =>
    match atom with
    | .plain char => some ⟨char, false⟩
    | .value char => some ⟨char, false⟩
    | .literal char => some ⟨char, true⟩
    | .present => none
    | .cut => some ⟨' ', true⟩)

/-- A value in a word, which is quoted or not. -/
def valueAtoms (quoted : Bool) (value : List Char) : List Atom :=
  value.map fun char => if quoted then .literal char else .value char

/-- Values in a word, each of which is a field of its own. -/
def separateAtoms (quoted : Bool) : List String → List Atom
  | [] => []
  | [value] => (if quoted then [.present] else []) ++ valueAtoms quoted value.toList
  | value :: rest =>
      (if quoted then [.present] else []) ++ valueAtoms quoted value.toList ++
        .cut :: separateAtoms quoted rest

/-- A quoted value is one field, whatever separates fields. -/
theorem fieldsFrom_quoted (separators value : List Char) (afterBlank : Bool) (begun : Field) :
    fieldsFrom separators afterBlank (some begun) (valueAtoms true value) =
      [begun.reverse ++ value.map (⟨·, true⟩)] := by
  induction value generalizing begun afterBlank with
  | nil => simp [valueAtoms, fieldsFrom]
  | cons char rest hypothesis =>
      have := hypothesis false (⟨char, true⟩ :: begun)
      simp only [valueAtoms, if_true] at this
      simp [valueAtoms, fieldsFrom, this]

end CertPress.Shell
