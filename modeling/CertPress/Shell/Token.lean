import CertPress.Shell.Command
import CertPress.Text.Pieces

/-!
# Tokens

A script is a sequence of operators, redirections and words.  Blanks separate
them, and a comment lasts to the end of its line.  A word that stands where a
command may start can be a keyword.
-/

namespace CertPress.Shell

/-- Stands for a line of a script that was read before its place was reached. -/
def readLineMark : Char := '\u2028'

/-- The number of lines that end in a text. -/
def lineCount (chars : List Char) : Nat :=
  chars.countP fun char => char == '\n' || char == readLineMark

/-- Whether an unquoted character ends a word. -/
def endsWord (char : Char) : Bool :=
  [' ', '\t', '\n', ';', '&', '|', '<', '>', '(', ')'].contains char

/-- Whether a character stands for itself wherever it stands. -/
def isOrdinary (char : Char) : Bool :=
  !endsWord char && !(['\\', '\'', '"', '$', '\x60', '\x7d'].contains char)

/-- Whether a character may start a name. -/
def startsName (char : Char) : Bool := char.isAlpha || char == '_'

/-- Whether a character may stand in a name. -/
def inName (char : Char) : Bool := char.isAlphanum || char == '_'

/-- The name at the start of a text. -/
def nameAt (chars : List Char) : List Char :=
  match chars with
  | first :: _ => if startsName first then chars.takeWhile inName else []
  | [] => []

/-- Whether a text is a name. -/
def isName (chars : List Char) : Bool := !chars.isEmpty && nameAt chars == chars

/-- The text without the blanks and comments at its start, and without the line
ends there if `lines` says so. -/
def skipBlanks (lines inComment : Bool) (chars : List Char) : List Char :=
  match inComment, chars with
  | _, [] => []
  | true, '\n' :: rest => if lines then skipBlanks lines false rest else '\n' :: rest
  | true, _ :: rest => skipBlanks lines true rest
  | false, '#' :: rest => skipBlanks lines true rest
  | false, '\\' :: '\n' :: rest => skipBlanks lines false rest
  | false, '\n' :: rest => if lines then skipBlanks lines false rest else '\n' :: rest
  | false, char :: rest =>
      if char == ' ' || char == '\t' || char == readLineMark then skipBlanks lines false rest
      else char :: rest

/-- What comes next in a script. -/
inductive Token where
  | ending
  | line
  | semicolon
  | background
  | both
  | either
  | pipe
  | opening
  | closing
  /-- The end of an arm of a selection. -/
  | armEnding
  | redirect
  | word
  | keyword (text : String)
  deriving DecidableEq, Repr, Inhabited

namespace Token

/-- The words with a meaning where a command may start. -/
def keywords : List String :=
  ["!", "case", "do", "done", "elif", "else", "esac", "fi", "for", "if", "in", "then", "until",
   "while", "\x7b", "\x7d"]

/-- The keywords that end a list of commands. -/
def closers : List String := ["do", "done", "elif", "else", "esac", "fi", "then", "\x7d"]

/-- The token in messages. -/
def name : Token → String
  | .ending => "end of file"
  | .line => "newline"
  | .semicolon => "\";\""
  | .background => "\"&\""
  | .both => "\"&&\""
  | .either => "\"||\""
  | .pipe => "\"|\""
  | .opening => "\"(\""
  | .closing => "\")\""
  | .armEnding => "\";;\""
  | .redirect => "redirection"
  | .word => "word"
  | .keyword text => "\"" ++ text ++ "\""

/-- Whether a list of commands ends before a token. -/
def closesList : Token → Bool
  | .ending | .closing | .armEnding => true
  | .keyword text => closers.contains text
  | _ => false

/-- The unquoted text up to the end of the word at the start of a text. -/
def wordAt (chars : List Char) : List Char := chars.takeWhile (!endsWord ·)

/-- The token at the start of a text without leading blanks. -/
def at? (mayBeKeyword : Bool) (chars : List Char) : Token :=
  match chars with
  | [] => .ending
  | '\n' :: _ => .line
  | ';' :: ';' :: _ => .armEnding
  | ';' :: _ => .semicolon
  | '&' :: '&' :: _ => .both
  | '&' :: _ => .background
  | '|' :: '|' :: _ => .either
  | '|' :: _ => .pipe
  | '(' :: _ => .opening
  | ')' :: _ => .closing
  | '<' :: _ => .redirect
  | '>' :: _ => .redirect
  | first :: rest =>
      if first.isDigit && (rest.head? == some '<' || rest.head? == some '>') then .redirect
      else
        let text := String.ofList (wordAt chars)
        if mayBeKeyword && keywords.contains text then .keyword text else .word

/-- The number of characters of an operator or keyword. -/
def length : Token → Nat
  | .ending | .redirect | .word => 0
  | .line | .semicolon | .background | .pipe | .opening | .closing => 1
  | .both | .either | .armEnding => 2
  | .keyword text => text.length

end Token

/-- A redirection operator. -/
inductive RedirectOperator where
  | mode (mode : RedirectMode)
  /-- The input is a text on the next lines, of which leading tabs may not
  count. -/
  | document (withoutTabs : Bool)
  deriving DecidableEq, Repr, Inhabited

/-- The descriptor and the operator of the redirection at the start of a text,
and the text after it. -/
def redirectAt? (chars : List Char) : Option (Nat × RedirectOperator × List Char) :=
  let digit := chars.head?.filter Char.isDigit
  let operator := if digit.isSome then chars.drop 1 else chars
  let descriptor (standard : Nat) : Nat :=
    (digit.map fun char => char.toNat - '0'.toNat).getD standard
  match operator with
  | '>' :: '>' :: rest => some (descriptor 1, .mode .append, rest)
  | '>' :: '&' :: rest => some (descriptor 1, .mode .duplicate, rest)
  | '>' :: '|' :: rest => some (descriptor 1, .mode .replace, rest)
  | '>' :: rest => some (descriptor 1, .mode .output, rest)
  | '<' :: '<' :: '-' :: rest => some (descriptor 0, .document true, rest)
  | '<' :: '<' :: rest => some (descriptor 0, .document false, rest)
  | '<' :: '&' :: rest => some (descriptor 0, .mode .duplicate, rest)
  | '<' :: '>' :: rest => some (descriptor 0, .mode .both, rest)
  | '<' :: rest => some (descriptor 0, .mode .input, rest)
  | _ => none

/-- A text cut before the line end that is not quoted. -/
def cutLine : List Char → List Char × List Char
  | [] => ([], [])
  | '\n' :: rest => ([], '\n' :: rest)
  | '\\' :: char :: rest =>
      let (before, after) := cutLine rest
      ('\\' :: char :: before, after)
  | char :: rest =>
      let (before, after) := cutLine rest
      (char :: before, after)

/-- The text between quotes at the start of a text, and what follows. -/
def cutQuoted (quote : Char) (chars : List Char) : List Char × List Char :=
  (chars.takeWhile (· != quote), (chars.dropWhile (· != quote)).drop 1)

/-- The word that ends a document, without its quotes; whether it had any; and
the text after it.  The fuel is the length of the text. -/
def delimiterAt : (fuel : Nat) → List Char → List Char × Bool × List Char
  | 0, chars => ([], false, chars)
  | _ + 1, [] => ([], false, [])
  | fuel + 1, '\\' :: char :: rest =>
      let (word, _, after) := delimiterAt fuel rest
      (char :: word, true, after)
  | fuel + 1, char :: rest =>
      if char == '\'' || char == '"' then
        let (inside, outside) := cutQuoted char rest
        let (word, _, after) := delimiterAt fuel outside
        (inside ++ word, true, after)
      else if endsWord char then ([], false, char :: rest)
      else
        let (word, quoted, after) := delimiterAt fuel rest
        (char :: word, quoted, after)

/-- Whether a line goes on after the line end. -/
def isContinued (line : List Char) : Bool :=
  (line.reverse.takeWhile (· == '\\')).length % 2 == 1

/-- The lines up to the one that is the delimiter, and the number of lines after
which the text goes on.  `inLine` says that the first line continues another. -/
def documentLines (delimiter : List Char) (withoutTabs quoted inLine : Bool) :
    List (List Char) → List (List Char) × Nat
  | [] => ([], 0)
  | line :: lines =>
      let shown := if withoutTabs && !inLine then Text.dropLeading '\t' line else line
      if shown == delimiter && !inLine then ([], 1)
      else
        let (rest, count) := documentLines delimiter withoutTabs quoted
          (!quoted && isContinued line) lines
        (shown :: rest, count + 1)

/-- A document, and the text that remains.  In place of the lines of the document
there are marks. -/
def cutDocument (delimiter : List Char) (withoutTabs quoted : Bool) (chars : List Char) :
    List Char × List Char :=
  match cutLine chars with
  | (before, '\n' :: after) =>
      let marks := after.takeWhile (· == readLineMark)
      let lines := Text.split '\n' (after.drop marks.length)
      let (content, count) := documentLines delimiter withoutTabs quoted false lines
      let isWhole := content.length < count
      let last := content.getLast?.getD []
      let body := if isWhole then content.flatMap (· ++ ['\n'])
        else content.dropLast.flatMap (· ++ ['\n']) ++ last
      let read := List.replicate (min count (lines.length - 1)) readLineMark
      (body, before ++ '\n' :: marks ++ read ++ Text.join '\n' (lines.drop count))
  | (before, _) => ([], before)

end CertPress.Shell
