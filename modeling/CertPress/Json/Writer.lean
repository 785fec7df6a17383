import CertPress.Json.Value

/-!
# Writing JSON

The compact text of a value, without any spaces, and the indented text that
records are stored as.  A string escapes quotes, backslashes and control
characters only.
-/

namespace CertPress.Json

/-- The written form of a character inside a string. -/
def escapeChar (char : Char) : List Char :=
  if char = '"' then ['\\', '"']
  else if char = '\\' then ['\\', '\\']
  else if char = '\x08' then ['\\', 'b']
  else if char = '\x0c' then ['\\', 'f']
  else if char = '\n' then ['\\', 'n']
  else if char = '\r' then ['\\', 'r']
  else if char = '\t' then ['\\', 't']
  else if char.toNat < 0x20 then '\\' :: 'u' :: Text.hexPadded 4 char.toNat
  else [char]

/-- The written form of a string, with its quotes. -/
def quote (text : String) : List Char :=
  '"' :: text.toList.flatMap escapeChar ++ ['"']

/-- The start of a new line at a depth of indentation. -/
def lineBreak (depth : Nat) : List Char :=
  '\n' :: List.replicate (2 * depth) ' '

namespace Value

mutual

/-- The text of a value without spaces. -/
def compact : Value → List Char
  | .null => ['n', 'u', 'l', 'l']
  | .bool true => ['t', 'r', 'u', 'e']
  | .bool false => ['f', 'a', 'l', 's', 'e']
  | .number value => value.chars
  | .string text => quote text
  | .array items => '[' :: compactItems items
  | .object members => '\x7b' :: compactMembers members

/-- The items of an array and its closing bracket. -/
def compactItems : List Value → List Char
  | [] => [']']
  | [item] => item.compact ++ [']']
  | item :: rest => item.compact ++ ',' :: compactItems rest

/-- The members of an object and its closing brace. -/
def compactMembers : List (String × Value) → List Char
  | [] => ['\x7d']
  | [(key, value)] => quote key ++ ':' :: value.compact ++ ['\x7d']
  | (key, value) :: rest => quote key ++ ':' :: value.compact ++ ',' :: compactMembers rest

end

mutual

/-- The text of a value with one item or member on each line, at a depth of
indentation.  Empty arrays and objects stay on one line. -/
def indented (depth : Nat) : Value → List Char
  | .array [] => ['[', ']']
  | .array (item :: rest) =>
      '[' :: lineBreak (depth + 1) ++ item.indented (depth + 1) ++
        indentedItems depth rest
  | .object [] => ['\x7b', '\x7d']
  | .object ((key, value) :: rest) =>
      '\x7b' :: lineBreak (depth + 1) ++ quote key ++ ':' :: ' ' ::
        value.indented (depth + 1) ++ indentedMembers depth rest
  | .null => ['n', 'u', 'l', 'l']
  | .bool true => ['t', 'r', 'u', 'e']
  | .bool false => ['f', 'a', 'l', 's', 'e']
  | .number value => value.chars
  | .string text => quote text

/-- The further items of an array, and its end. -/
def indentedItems (depth : Nat) : List Value → List Char
  | [] => lineBreak depth ++ [']']
  | item :: rest =>
      ',' :: lineBreak (depth + 1) ++ item.indented (depth + 1) ++
        indentedItems depth rest

/-- The further members of an object, and its end. -/
def indentedMembers (depth : Nat) : List (String × Value) → List Char
  | [] => lineBreak depth ++ ['\x7d']
  | (key, value) :: rest =>
      ',' :: lineBreak (depth + 1) ++ quote key ++ ':' :: ' ' ::
        value.indented (depth + 1) ++ indentedMembers depth rest

end

/-- The compact text of a value. -/
def text (value : Value) : String := String.ofList value.compact

/-- The indented text of a value. -/
def pretty (value : Value) : String := String.ofList (value.indented 0)

end Value

end CertPress.Json
