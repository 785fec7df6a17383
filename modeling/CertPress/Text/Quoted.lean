import CertPress.Text.CodeSet
import CertPress.Text.Unseen

/-!
# Quoted text

Text in double quotes for messages.  Quotes, backslashes and controls are
escaped, and so are characters that would not be seen or would join the
character before them.
-/

namespace CertPress.Text.Quoted

/-- Whether a character is printed as itself.  The printing characters of ASCII
are. -/
def isPrinted (char : Char) : Bool :=
  (0x20 ≤ char.toNat && char.toNat < 0x7F) || !(unseen.has char || isJoined char)

/-- A character by its code. -/
def byCode (char : Char) : List Char :=
  ['\\', 'u', '\x7b'] ++ Nat.toDigits 16 char.toNat ++ ['\x7d']

/-- A character inside quotes. -/
def escape (char : Char) : List Char :=
  match char with
  | '\x00' => ['\\', '0']
  | '\t' => ['\\', 't']
  | '\r' => ['\\', 'r']
  | '\n' => ['\\', 'n']
  | '"' => ['\\', '"']
  | '\\' => ['\\', '\\']
  | _ => if isPrinted char then [char] else byCode char

/-- A text in quotes. -/
def quote (text : String) : String :=
  "\"" ++ String.ofList (text.toList.flatMap escape) ++ "\""

end CertPress.Text.Quoted
