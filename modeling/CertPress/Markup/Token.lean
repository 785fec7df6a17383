import CertPress.Text.Blank
import CertPress.Text.Pieces

/-!
# Tokens of a template

A template is text with tags, each between two opening and two closing braces.
`tokenize` cuts a source into its tokens without losing a character: `print`
writes them back.  The innermost opening pair owns a tag, and a pair that is
never closed is text.
-/

namespace CertPress.Markup

/-- The pair of braces that opens a tag. -/
def opening : List Char := ['\x7b', '\x7b']

/-- The pair of braces that closes a tag. -/
def closing : List Char := ['\x7d', '\x7d']

/-- A piece of a template: text, or a tag with what stands between its
braces. -/
inductive Token where
  | text (content : List Char)
  | tag (inner : List Char)
  deriving DecidableEq, Repr, Inhabited

/-- The source of a token. -/
def Token.print : Token → List Char
  | .text content => content
  | .tag inner => opening ++ inner ++ closing

/-- The first tag of a source, with the text before and after it. -/
structure FirstTag where
  before : List Char
  inner : List Char
  after : List Char
  deriving DecidableEq, Repr

/-- Find the first opening pair that is closed.  Its tag starts at the last
opening pair before the closing one. -/
def firstTag? (source : List Char) : Option FirstTag := do
  let (before, rest) ← Text.cut? opening source
  let (inner, after) ← Text.cut? closing rest
  match Text.cutLast? opening inner with
  | some (skipped, inner) => some ⟨before ++ opening ++ skipped, inner, after⟩
  | none => some ⟨before, inner, after⟩

theorem firstTag?_eq_some {source : List Char} {found : FirstTag}
    (first : firstTag? source = some found) :
    source = found.before ++ (Token.tag found.inner).print ++ found.after := by
  simp only [firstTag?, Option.bind_eq_bind, Option.bind_eq_some_iff, Prod.exists] at first
  obtain ⟨before, rest, opened, inner, after, closed, result⟩ := first
  have outer := Text.cut?_eq_some opened
  have whole := Text.cut?_eq_some closed
  split at result
  next skipped innermost cutInner =>
    have nested := Text.cutLast?_eq_some cutInner
    simp only [Option.some.injEq] at result
    subst result
    simp [outer, whole, nested, Token.print]
  next =>
    simp only [Option.some.injEq] at result
    subst result
    simp [outer, whole, Token.print]

theorem length_after_lt {source : List Char} {found : FirstTag}
    (first : firstTag? source = some found) :
    found.after.length < source.length := by
  have whole := congrArg List.length (firstTag?_eq_some first)
  simp only [Token.print, opening, closing, List.length_append, List.length_cons,
    List.length_nil] at whole
  omega

/-- A text token, or nothing for the empty text. -/
def textToken (content : List Char) : List Token :=
  if content.isEmpty then [] else [.text content]

/-- The tokens of a source. -/
def tokenize (source : List Char) : List Token :=
  match _first : firstTag? source with
  | none => textToken source
  | some found => textToken found.before ++ .tag found.inner :: tokenize found.after
  termination_by source.length
  decreasing_by exact length_after_lt _first

/-- What a tag asks for. -/
inductive Tag where
  /-- The value at a path. -/
  | value (path : String)
  /-- The start of a block that is kept if the value at a path holds. -/
  | openIf (path : String)
  /-- The start of the other branch of such a block. -/
  | otherwise
  | closeIf
  /-- The start of a block that is repeated for each item at a path. -/
  | openEach (path : String)
  | closeEach
  /-- An empty tag or a block of another kind. -/
  | unknown
  deriving DecidableEq, Repr, Inhabited

namespace Tag

/-- The argument of a block tag: what follows the keyword and at least one
blank, if it is not blank itself. -/
def argument? (keyword inner : List Char) : Option String :=
  match Text.after? keyword inner with
  | some (char :: rest) =>
      let path := Text.trim (char :: rest)
      if Text.isBlank char && !path.isEmpty then some (String.ofList path) else none
  | _ => none

/-- The keyword of a conditional block. -/
def ifKeyword : List Char := ['#', 'i', 'f']

/-- The keyword of a repeated block. -/
def eachKeyword : List Char := ['#', 'e', 'a', 'c', 'h']

/-- The meaning of the trimmed text between the braces of a tag. -/
def ofTrimmed (inner : List Char) : Tag :=
  match argument? ifKeyword inner, argument? eachKeyword inner with
  | some path, _ => .openIf path
  | none, some path => .openEach path
  | none, none =>
      if inner = ['e', 'l', 's', 'e'] then .otherwise
      else if inner = ['/', 'i', 'f'] then .closeIf
      else if inner = ['/', 'e', 'a', 'c', 'h'] then .closeEach
      else match inner with
        | [] => .unknown
        | '#' :: _ => .unknown
        | '/' :: _ => .unknown
        | _ => .value (String.ofList inner)

/-- The meaning of what stands between the braces of a tag. -/
def ofInner (inner : List Char) : Tag :=
  ofTrimmed (Text.trim inner)

end Tag

end CertPress.Markup
