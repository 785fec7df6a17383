import CertPress.Json.Value

/-!
# JSON as it is written

The tree that the grammar of JSON gives a text, before strings and numbers are
given a meaning.  Reading never fails as a whole: the tree of a text that is
not JSON holds everything up to the first mistake, which is marked by `broken`
or by a container that is not closed.  A reader that walks the tree in order
therefore meets the mistakes of the text and those of its content in the order
of the text.

A text that was read from bytes may hold places that are no character, which are
`none` here.  They are mistakes outside strings, and inside a string they are
kept for the reader that asks for its text.
-/

namespace CertPress.Json

/-- A text in which places that are no character are marked. -/
abbrev Source := List (Option Char)

/-- The source of a text. -/
def Source.ofChars (chars : List Char) : Source := chars.map some

/-- A JSON text up to its first mistake. -/
inductive Raw where
  | null
  | bool (value : Bool)
  | number (literal : NumberLiteral)
  | string (body : Source)
  | array (items : List Raw) (closed : Bool)
  | object (members : List (Source × Raw)) (closed : Bool)
  | broken
  deriving Repr, Inhabited

namespace Raw

/-- Whether a character is white space in JSON. -/
def isSpace (char : Char) : Bool :=
  char == ' ' || char == '\n' || char == '\t' || char == '\r'

/-- The text without leading white space. -/
def skipSpace (source : Source) : Source :=
  source.dropWhile (·.any isSpace)

/-- The characters that may follow a backslash by themselves. -/
def shortEscapes : List Char := ['"', '\\', '/', 'b', 'f', 'n', 'r', 't']

/-- The body of a string after its opening quote, as it is written, and the
text after the closing quote. -/
def readString : Source → Option (Source × Source)
  | [] => none
  | some '"' :: rest => some ([], rest)
  | some '\\' :: some 'u' :: a :: b :: c :: d :: rest =>
      if [a, b, c, d].all (·.any Text.isHexDigit) then
        (readString rest).map fun (body, after) =>
          (some '\\' :: some 'u' :: a :: b :: c :: d :: body, after)
      else none
  | some '\\' :: some escaped :: rest =>
      if shortEscapes.contains escaped then
        (readString rest).map fun (body, after) => (some '\\' :: some escaped :: body, after)
      else none
  | place :: rest =>
      if place.any fun char => char = '\\' || char.toNat < 0x20 then none
      else (readString rest).map fun (body, after) => (place :: body, after)

/-- A run of digits and the text after it. -/
def spanDigits : Source → List Char × Source
  | some char :: rest =>
      if char.isDigit then
        let (digits, after) := spanDigits rest
        (char :: digits, after)
      else ([], some char :: rest)
  | source => ([], source)

/-- The exponent of a number, if one is written; none at the outside where it
lacks digits. -/
def readExponent (source : Source) : Option (Option (Bool × List Char) × Source) :=
  match source with
  | some mark :: rest =>
      if mark = 'e' || mark = 'E' then
        let (negative, unsigned) := match rest with
          | some '-' :: rest => (true, rest)
          | some '+' :: rest => (false, rest)
          | _ => (false, rest)
        let (digits, after) := spanDigits unsigned
        if digits.isEmpty then none else some (some (negative, digits), after)
      else some (none, source)
  | _ => some (none, source)

/-- The fraction of a number, if one is written; none at the outside where it
lacks digits. -/
def readFraction (source : Source) : Option (Option (List Char) × Source) :=
  match source with
  | some '.' :: rest =>
      let (digits, after) := spanDigits rest
      if digits.isEmpty then none else some (some digits, after)
  | _ => some (none, source)

/-- A number literal and the text after it.  A zero may not be followed by
another digit. -/
def readNumber (source : Source) : Option (NumberLiteral × Source) := do
  let (negative, unsigned) := match source with
    | some '-' :: rest => (true, rest)
    | _ => (false, source)
  let (whole, afterWhole) := spanDigits unsigned
  if whole.isEmpty || (whole.head? == some '0' && 1 < whole.length) then none
  let (fraction, afterFraction) ← readFraction afterWhole
  let (exponent, after) ← readExponent afterFraction
  return (⟨negative, whole, fraction, exponent⟩, after)

mutual

/-- Read a value that starts with the first character, and the text after it;
no text where the value is broken.  The fuel bounds the nesting and the number
of values. -/
def readValue (fuel : Nat) (source : Source) : Raw × Option Source :=
  match fuel with
  | 0 => (.broken, none)
  | fuel + 1 =>
      match skipSpace source with
      | some 'n' :: some 'u' :: some 'l' :: some 'l' :: rest => (.null, some rest)
      | some 't' :: some 'r' :: some 'u' :: some 'e' :: rest => (.bool true, some rest)
      | some 'f' :: some 'a' :: some 'l' :: some 's' :: some 'e' :: rest => (.bool false, some rest)
      | some '"' :: rest =>
          match readString rest with
          | some (body, after) => (.string body, some after)
          | none => (.broken, none)
      | some '[' :: rest =>
          match skipSpace rest with
          | some ']' :: after => (.array [] true, some after)
          | items =>
              let (values, after) := readItems fuel items
              (.array values after.isSome, after)
      | some '\x7b' :: rest =>
          match skipSpace rest with
          | some '\x7d' :: after => (.object [] true, some after)
          | members =>
              let (entries, after) := readMembers fuel members
              (.object entries after.isSome, after)
      | other =>
          match readNumber other with
          | some (literal, after) => (.number literal, some after)
          | none => (.broken, none)

/-- Read the items of an array up to its closing bracket. -/
def readItems (fuel : Nat) (source : Source) : List Raw × Option Source :=
  match fuel with
  | 0 => ([.broken], none)
  | fuel + 1 =>
      match readValue fuel source with
      | (item, none) => ([item], none)
      | (item, some rest) =>
          match skipSpace rest with
          | some ']' :: after => ([item], some after)
          | some ',' :: next =>
              let (items, after) := readItems fuel next
              (item :: items, after)
          | _ => ([item], none)

/-- Read the members of an object up to its closing brace. -/
def readMembers (fuel : Nat) (source : Source) :
    List (Source × Raw) × Option Source :=
  match fuel with
  | 0 => ([], none)
  | fuel + 1 =>
      match skipSpace source with
      | some '"' :: body =>
          match readString body with
          | none => ([], none)
          | some (key, afterKey) =>
              match skipSpace afterKey with
              | some ':' :: valueText =>
                  match readValue fuel valueText with
                  | (value, none) => ([(key, value)], none)
                  | (value, some rest) =>
                      match skipSpace rest with
                      | some '\x7d' :: after => ([(key, value)], some after)
                      | some ',' :: next =>
                          let (members, after) := readMembers fuel next
                          ((key, value) :: members, after)
                      | _ => ([(key, value)], none)
              | _ => ([(key, .broken)], none)
      | _ => ([], none)

end

end Raw

/-- The tree of a whole text, and whether the text ends after it. -/
structure Document where
  tree : Raw
  ended : Bool
  deriving Repr, Inhabited

/-- The tree of a text. -/
def Document.ofSource (source : Source) : Document :=
  match Raw.readValue (2 * source.length + 2) source with
  | (tree, some rest) => ⟨tree, (Raw.skipSpace rest).isEmpty⟩
  | (tree, none) => ⟨tree, false⟩

end CertPress.Json
