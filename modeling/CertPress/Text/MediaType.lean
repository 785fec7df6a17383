import CertPress.Text.Ascii
import CertPress.Text.Pieces

/-!
# Media types

The media type that a request states, and whether it announces JSON.
-/

namespace CertPress.Text

/-- Whether a character may stand in a name of a media type. -/
def isToken (char : Char) : Bool :=
  char.isAlphanum || "!#$%&'*+-.^_|~".toList.contains char || char == Char.ofNat 0x60

/-- Whether a character may stand in a header that is read as text. -/
def isVisible (char : Char) : Bool :=
  (0x20 ≤ char.toNat && char.toNat < 0x7F) || char == '\t'

/-- Whether a character may stand between the quotes of a parameter. -/
def isQuotedToken (char : Char) : Bool := isVisible char && char != '"' && char != '\t'

/-- Whether the text is what may follow a quoted parameter: spaces, and a
semicolon with further parameters. -/
def afterQuote (chars : List Char) : Option (List Char) :=
  match chars.dropWhile (· == ' ') with
  | [] => some []
  | ';' :: rest => some rest
  | _ => none

/-- Read one parameter and give the text after it.  The first character between
quotes may be a quote itself. -/
def readParameter (chars : List Char) : Option (List Char) :=
  match chars.dropWhile isToken with
  | '=' :: value =>
      if (chars.takeWhile isToken).isEmpty then none
      else match value with
        | '"' :: quoted =>
            match (quoted.drop 1).dropWhile isQuotedToken with
            | '"' :: rest => if quoted.head?.any fun char => isQuotedToken char || char == '"'
                then afterQuote rest else none
            | _ => none
        | _ =>
            match value.dropWhile isToken with
            | [] => some []
            | ';' :: rest => if (value.takeWhile isToken).isEmpty then none else some rest
            | _ => none
  | _ => none

/-- Whether the text is a list of parameters.  The fuel bounds their
number. -/
def areParameters (fuel : Nat) (chars : List Char) : Bool :=
  match fuel with
  | 0 => false
  | fuel + 1 =>
      match chars.dropWhile (· == ' ') with
      | [] => true
      | trimmed =>
          match readParameter trimmed with
          | some rest => areParameters fuel rest
          | none => false

/-- The two names of a media type in small letters, if its text is one. -/
def mediaType? (text : String) : Option (List Char × List Char) := do
  if !text.toList.all isVisible then none
  let (kind, rest) ← cut? ['/'] text.toList
  let subtype := rest.takeWhile isToken
  if kind.isEmpty || !kind.all isToken || subtype.isEmpty then none
  let wellFormed := match rest.dropWhile isToken with
    | [] => true
    | ';' :: parameters => areParameters (parameters.length + 1) parameters
    | _ => false
  if wellFormed then some (kind.map Char.toLower, subtype.map Char.toLower) else none

/-- Whether a media type is JSON, or is based on JSON by its suffix. -/
def isJson (text : String) : Bool :=
  match mediaType? text with
  | some (kind, subtype) =>
      let (base, suffix) := match cutLast? ['+'] subtype with
        | some (base, suffix) => if base.isEmpty then (subtype, []) else (base, suffix)
        | none => (subtype, [])
      kind == "application".toList && (base == "json".toList || suffix == "json".toList)
  | none => false

end CertPress.Text
