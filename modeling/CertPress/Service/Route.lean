import CertPress.Text.Pieces

/-!
# Routes and mounts

A route is a pattern of the characters of a path: literal ones, segments that
are captured, and at the end any remainder.  Of the routes that match a path the
most specific one is taken, where a literal character comes before a capture and
a capture before a remainder, at the first place in which they differ.

A mount is the start of the paths that lead to the files of a directory.  It is
written as a pattern: a name in braces captures, and doubled braces stand for
single ones.  What is served is looked up by the path below the mount.
-/

namespace CertPress.Service

/-! ## Routes -/

/-- A part of a pattern. -/
inductive Part where
  | literal (char : Char)
  /-- Everything up to the next slash, at a place where the path goes on. -/
  | capture
  /-- Any remainder that is not empty. -/
  | rest
  deriving DecidableEq, Repr, Inhabited

namespace Part

/-- How little a part says about the path. -/
def rank : Part → Nat
  | .literal _ => 0
  | .capture => 1
  | .rest => 2

end Part

/-- A pattern with what it leads to. -/
structure Route (α : Type) where
  pattern : List Part
  endpoint : α
  deriving Repr, Inhabited

namespace Route

/-- The pattern of a text that stands for itself. -/
def literals (path : String) : List Part := path.toList.map .literal

/-- What a pattern captures of a path, if it matches it. -/
def captures? : List Part → List Char → Option (List (List Char))
  | [], [] => some []
  | .literal expected :: parts, char :: path =>
      if expected = char then captures? parts path else none
  | .capture :: parts, char :: path =>
      let segment := (char :: path).takeWhile (· != '/')
      (captures? parts ((char :: path).dropWhile (· != '/'))).map (segment :: ·)
  | [.rest], char :: path => some [char :: path]
  | _, _ => none

/-- Whether the first pattern is the more specific one. -/
def before (left right : List Part) : Bool :=
  decide (left.map Part.rank < right.map Part.rank)

/-- Whether two patterns cannot stand in one table: they match the same paths,
or one captures where the other takes the remainder. -/
def clash : List Part → List Part → Bool
  | [], [] => true
  | .literal left :: lefts, .literal right :: rights => left == right && clash lefts rights
  | .capture :: lefts, .capture :: rights => clash lefts rights
  | .rest :: _, .rest :: _ => true
  | .rest :: _, .capture :: _ => true
  | .capture :: _, .rest :: _ => true
  | _, _ => false

variable {α : Type}

/-- Add a route to a table, unless it clashes with one that is there. -/
def add? (table : List (Route α)) (route : Route α) : Option (List (Route α)) :=
  if table.any fun other => clash other.pattern route.pattern then none
  else some (table ++ [route])

/-- The endpoint and the captures of the most specific route for a path. -/
def find? (table : List (Route α)) (path : List Char) : Option (α × List (List Char)) :=
  let matching := table.filterMap fun route =>
    (captures? route.pattern path).map fun captures => (route, captures)
  (matching.foldl
    (fun best candidate => match best with
      | some (route, captures) =>
          if before candidate.1.pattern route.pattern then some candidate
          else some (route, captures)
      | none => some candidate)
    none).map fun (route, captures) => (route.endpoint, captures)

end Route

end CertPress.Service

namespace CertPress.Service.Mount

/-! ## Mounts -/

/-- The characters of a written pattern, each with whether it was doubled and
stands for itself. -/
def single : List Char → List (Char × Bool)
  | [] => []
  | '\x7b' :: '\x7b' :: rest => ('\x7b', true) :: single rest
  | '\x7d' :: '\x7d' :: rest => ('\x7d', true) :: single rest
  | char :: rest => (char, false) :: single rest

/-- Where in a written pattern a character stands. -/
inductive Place where
  | outside
  /-- Just after an opening brace. -/
  | opened
  /-- After the first character of a name in braces. -/
  | inside
  /-- Just after a closing brace. -/
  | closed
  deriving DecidableEq, Repr, Inhabited

/-- The parts of a pattern.  Braces have to be paired, with a name between them
that holds neither a star nor, after its first character, a slash, and a segment
ends with its closing brace. -/
def parts? : Place → List (Char × Bool) → Option (List Part)
  | .outside, [] => some []
  | .closed, [] => some []
  | _, [] => none
  | .outside, (char, doubled) :: rest =>
      if doubled then (parts? .outside rest).map (.literal char :: ·)
      else if char = '\x7b' then parts? .opened rest
      else if char = '\x7d' then none
      else (parts? .outside rest).map (.literal char :: ·)
  | .opened, (char, _) :: rest =>
      if char = '\x7d' || char = '*' then none else parts? .inside rest
  | .inside, (char, doubled) :: rest =>
      if char = '\x7d' && !doubled then (parts? .closed rest).map (.capture :: ·)
      else if char = '*' || char = '/' then none
      else parts? .inside rest
  | .closed, (char, _) :: rest =>
      if char = '/' then (parts? .outside rest).map (.literal char :: ·) else none

/-- The number of captures that a pattern may have. -/
def captureLimit : Nat := 25

/-- The pattern of a mount.  Its segments may not start with a colon or a
star. -/
def pattern? (mount : String) : Option (List Part) := do
  if (Text.split '/' mount.toList).any fun segment =>
      segment.head?.any fun char => char == ':' || char == '*' then none
  let parts ← parts? .outside (single ('/' :: mount.toList))
  if captureLimit < parts.count .capture then none else some parts

/-- Whether a segment of a mount captures as a whole. -/
def isCapture (segment : List Char) : Bool :=
  ['\x7b'].isPrefixOf segment && segment.getLast? == some '\x7d' &&
    !(['\x7b', '\x7b'].isPrefixOf segment) && !(['\x7d', '\x7d'].isSuffixOf segment)

/-- The segments of a path after those of a mount, as the mount is written.  A
segment that captures as a whole stands for any. -/
def after? : List (List Char) → List (List Char) → Option (List (List Char))
  | [], rest => some rest
  | _ :: _, [] => none
  | expected :: mount, segment :: path =>
      if isCapture expected || expected == segment then after? mount path
      else if expected.isEmpty then some (segment :: path)
      else none

/-- The path below a mount.  A path that does not start as the mount is written
is kept. -/
def below (mount : String) (path : List Char) : List Char :=
  match after? (Text.split '/' mount.toList) (Text.split '/' (path.drop 1)) with
  | none => path
  | some segments =>
      let rest := Text.join '/' segments
      if rest.head? = some '/' then rest else '/' :: rest

end CertPress.Service.Mount
