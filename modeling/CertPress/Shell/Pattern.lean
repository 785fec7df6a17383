/-!
# Patterns

Patterns that match a whole text: an asterisk for any text, a question mark for
any character, and characters, ranges or classes in brackets for one of them.
-/

namespace CertPress.Shell

/-- The classes of ASCII characters by their names. -/
def characterClasses : List (String × (Char → Bool)) :=
  [("alpha", Char.isAlpha), ("digit", Char.isDigit), ("alnum", Char.isAlphanum),
   ("upper", Char.isUpper), ("lower", Char.isLower),
   ("space", fun char => char == ' ' || (9 ≤ char.toNat && char.toNat ≤ 13)),
   ("blank", fun char => char == ' ' || char == '\t'),
   ("punct", fun char => 0x21 ≤ char.toNat && char.toNat < 0x7F && !char.isAlphanum),
   ("print", fun char => 0x20 ≤ char.toNat && char.toNat < 0x7F),
   ("graph", fun char => 0x21 ≤ char.toNat && char.toNat < 0x7F),
   ("cntrl", fun char => char.toNat < 0x20 || char.toNat == 0x7F),
   ("xdigit", fun char => char.isDigit || ('a' ≤ char && char ≤ 'f') || ('A' ≤ char && char ≤ 'F'))]

/-- Whether a character belongs to a class. -/
def inClass (name : List Char) (char : Char) : Bool :=
  match characterClasses.find? fun (known, _) => known.toList == name with
  | some (_, belongs) => belongs char
  | none => false

/-- What brackets list. -/
inductive BracketItem where
  | range (first last : Char)
  | kind (name : List Char)
  deriving DecidableEq, Repr, Inhabited

namespace BracketItem

/-- Whether an item stands for a character. -/
def accepts (item : BracketItem) (char : Char) : Bool :=
  match item with
  | .range first last => decide (first ≤ char ∧ char ≤ last)
  | .kind name => inClass name char

end BracketItem

/-- A part of a pattern. -/
inductive PatternPart where
  | char (char : Char)
  /-- Any character. -/
  | one
  /-- Any text. -/
  | many
  /-- A character that one of the items stands for, or none of them. -/
  | among (inside : Bool) (items : List BracketItem)
  deriving DecidableEq, Repr, Inhabited

namespace PatternPart

/-- Whether a part that stands for one character stands for this one. -/
def accepts (part : PatternPart) (char : Char) : Bool :=
  match part with
  | .char expected => char == expected
  | .one => true
  | .many => false
  | .among inside items => inside == items.any (·.accepts char)

end PatternPart

/-- A pattern. -/
abbrev Pattern := List PatternPart

/-- A character of a written pattern.  One that is quoted stands for itself. -/
structure PatternChar where
  char : Char
  quoted : Bool
  deriving DecidableEq, Repr, Inhabited

namespace PatternChar

/-- Whether this is a character with its meaning in patterns. -/
def isMark (written : PatternChar) (mark : Char) : Bool :=
  !written.quoted && written.char == mark

end PatternChar

/-- The name of the class at the start of a text that follows a bracket and a
colon, and the text after it. -/
def classAt? (chars : List PatternChar) : Option (List Char × List PatternChar) :=
  let name := chars.takeWhile (·.char.isLower)
  match chars.drop name.length with
  | colon :: bracket :: rest =>
      if colon.isMark ':' && bracket.isMark ']' then some (name.map (·.char), rest) else none
  | _ => none

/-- Put an item in front of those of the rest of the brackets. -/
def addItem (item : BracketItem) (found : Option (List BracketItem × List PatternChar)) :
    Option (List BracketItem × List PatternChar) :=
  found.map fun (items, after) => (item :: items, after)

/-- The items in brackets, and the text after the closing bracket.  A bracket
that comes first does not close.  The fuel is the length of the text. -/
def bracketItems (first : Bool) : (fuel : Nat) → List PatternChar →
    Option (List BracketItem × List PatternChar)
  | 0, _ => none
  | _ + 1, [] => none
  | fuel + 1, char :: rest =>
      if char.isMark ']' && !first then some ([], rest)
      else
        let named := match rest with
          | colon :: inner =>
              if char.isMark '[' && colon.isMark ':' then classAt? inner else none
          | [] => none
        match named with
        | some (name, after) => addItem (.kind name) (bracketItems false fuel after)
        | none =>
            match rest with
            | dash :: last :: after =>
                if dash.isMark '-' && !last.isMark ']' then
                  addItem (.range char.char last.char) (bracketItems false fuel after)
                else addItem (.range char.char char.char) (bracketItems false fuel rest)
            | _ => addItem (.range char.char char.char) (bracketItems false fuel rest)

/-- The part that brackets stand for, and the text after them.  The text is what
follows the opening bracket. -/
def bracketPart? (chars : List PatternChar) : Option (PatternPart × List PatternChar) :=
  let inside := !(chars.head?.any (·.isMark '!'))
  let listed := if inside then chars else chars.drop 1
  (bracketItems true (listed.length + 1) listed).map fun (items, after) =>
    (.among inside items, after)

/-- The pattern that is written by characters.  The fuel is their number. -/
def patternFrom : (fuel : Nat) → List PatternChar → Pattern
  | 0, _ => []
  | _ + 1, [] => []
  | fuel + 1, char :: rest =>
      if char.isMark '*' then .many :: patternFrom fuel rest
      else if char.isMark '?' then .one :: patternFrom fuel rest
      else if char.isMark '[' then
        match bracketPart? rest with
        | some (part, after) => part :: patternFrom fuel after
        | none => .char '[' :: patternFrom fuel rest
      else .char char.char :: patternFrom fuel rest

/-- The pattern that is written by characters. -/
def Pattern.ofChars (chars : List PatternChar) : Pattern := patternFrom chars.length chars

/-- Whether a pattern is more than the text that it is written with. -/
def Pattern.isOpen (pattern : Pattern) : Bool :=
  pattern.any fun part => match part with
    | .char _ => false
    | _ => true

/-- The ends of a text, the longest first. -/
def endings : List Char → List (List Char)
  | [] => [[]]
  | char :: rest => (char :: rest) :: endings rest

/-- Whether a pattern stands for a whole text. -/
def Pattern.accepts : Pattern → List Char → Bool
  | [], chars => chars.isEmpty
  | .many :: parts, chars => parts.isEmpty || (endings chars).any (Pattern.accepts parts)
  | _ :: _, [] => false
  | part :: parts, char :: rest => part.accepts char && Pattern.accepts parts rest

/-- The ways to cut a text in two, the shortest first piece first. -/
def cuts (chars : List Char) : List (List Char × List Char) :=
  (List.range (chars.length + 1)).map fun count => (chars.take count, chars.drop count)

/-- The text without the start that a pattern stands for. -/
def Pattern.dropStart (pattern : Pattern) (longest : Bool) (chars : List Char) : List Char :=
  let ways := if longest then (cuts chars).reverse else cuts chars
  ((ways.find? fun (start, _) => pattern.accepts start).map (·.2)).getD chars

/-- The text without the end that a pattern stands for. -/
def Pattern.dropEnd (pattern : Pattern) (longest : Bool) (chars : List Char) : List Char :=
  let ways := if longest then cuts chars else (cuts chars).reverse
  ((ways.find? fun (_, ending) => pattern.accepts ending).map (·.1)).getD chars

/-- An asterisk stands for every text. -/
@[simp] theorem Pattern.accepts_many (chars : List Char) :
    Pattern.accepts [.many] chars = true := by
  simp [Pattern.accepts]

/-- A pattern of plain characters stands for their text alone. -/
theorem Pattern.accepts_chars (expected chars : List Char) :
    Pattern.accepts (expected.map .char) chars = true ↔ chars = expected := by
  induction expected generalizing chars with
  | nil => cases chars <;> simp [Pattern.accepts]
  | cons first rest hypothesis =>
      cases chars with
      | nil => simp [Pattern.accepts]
      | cons char others =>
          simp [Pattern.accepts, PatternPart.accepts, hypothesis]

end CertPress.Shell
