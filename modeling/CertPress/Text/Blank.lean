/-!
# Blank characters

The characters with the Unicode property White_Space, and the trimming of text
by them.  Text is handled as its list of characters; `trimmed` is the same
operation on a string.
-/

namespace CertPress.Text

/-- Whether a character has the Unicode property White_Space.  The zero-width
space and the byte order mark do not have it. -/
def isBlank (char : Char) : Bool :=
  let code := char.toNat
  (9 ≤ code && code ≤ 13) || code == 0x20 || code == 0x85 || code == 0xA0 ||
    code == 0x1680 || (0x2000 ≤ code && code ≤ 0x200A) || code == 0x2028 ||
    code == 0x2029 || code == 0x202F || code == 0x205F || code == 0x3000

/-- The text without its leading blanks. -/
def trimStart (chars : List Char) : List Char :=
  chars.dropWhile isBlank

/-- The text without its trailing blanks. -/
def trimEnd (chars : List Char) : List Char :=
  (chars.reverse.dropWhile isBlank).reverse

/-- The text without leading and trailing blanks. -/
def trim (chars : List Char) : List Char :=
  trimEnd (trimStart chars)

/-- Whether the text holds nothing but blanks. -/
def allBlank (chars : List Char) : Bool :=
  chars.all isBlank

/-- A string without leading and trailing blanks. -/
def trimmed (text : String) : String :=
  String.ofList (trim text.toList)

/-- Whether a string holds nothing but blanks. -/
def blank (text : String) : Bool :=
  allBlank text.toList

/-- The maximal runs of characters that are not blank, in order. -/
def words (chars : List Char) : List (List Char) :=
  match _skipped : chars.dropWhile isBlank with
  | [] => []
  | first :: rest =>
      (first :: rest.takeWhile (!isBlank ·)) ::
        words (rest.dropWhile (!isBlank ·))
  termination_by chars.length
  decreasing_by
    have shorter : (rest.dropWhile (!isBlank ·)).length ≤ rest.length :=
      (List.dropWhile_sublist _).length_le
    have whole : (first :: rest).length ≤ chars.length := by
      rw [← _skipped]
      exact (List.dropWhile_sublist _).length_le
    simp only [List.length_cons] at whole
    omega

@[simp] theorem trimStart_nil : trimStart [] = [] := rfl

@[simp] theorem trim_nil : trim [] = [] := rfl

/-- Every character that Lean's own class takes for white space is blank. -/
theorem isBlank_of_isWhitespace {char : Char} (white : char.isWhitespace) :
    isBlank char := by
  simp only [Char.isWhitespace, Bool.or_eq_true, decide_eq_true_eq] at white
  rcases white with ((rfl | rfl) | rfl) | rfl <;> decide

end CertPress.Text
