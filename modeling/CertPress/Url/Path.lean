import CertPress.Files.Path
import CertPress.Text.Percent

/-!
# Paths of addresses

A path is a list of segments, or text without structure.  While a path is read
its dot segments are settled: `.` stays at the same place and `..` drops the
segment before it, in both spellings with an encoded dot.  A segment that looks
like a drive is never dropped.

An absolute path of a file is the path of a `file:` address: every name is percent-encoded, and
`..` is kept, so the address leads to the same file.
-/

namespace CertPress.Url

/-- A segment of a path in its written form. -/
abbrev Segment := List Char

/-- A path. -/
inductive Path where
  /-- Text without structure, as in `mailto:` addresses. -/
  | plain (text : List Char)
  | segments (list : List Segment)
  deriving DecidableEq, Repr, Inhabited

namespace Path

/-- The written form of the path. -/
def chars : Path → List Char
  | .plain text => text
  | .segments list => list.flatMap ('/' :: ·)

/-- The characters that are percent-encoded in a path that is read. -/
def reserved : List Char :=
  [' ', '"', '<', '>', Char.ofNat 0x60, '#', '?', '\x7b', '\x7d']

/-- The characters that are percent-encoded in a segment that is appended. -/
def reservedInSegment (special : Bool) : List Char :=
  reserved ++ ['/', '%'] ++ (if special then ['\\'] else [])

/-- Whether a segment stays at the same place. -/
def isHere (segment : Segment) : Bool :=
  let lower := segment.map Char.toLower
  lower == ['.'] || lower == ['%', '2', 'e']

/-- Whether a segment leads one level up. -/
def isUp (segment : Segment) : Bool :=
  let lower := segment.map Char.toLower
  lower == ['.', '.'] || lower == ['.', '%', '2', 'e'] || lower == ['%', '2', 'e', '.'] ||
    lower == ['%', '2', 'e', '%', '2', 'e']

/-- Whether two characters mark a drive: a letter, and a colon or a bar. -/
def isDriveMark (letter mark : Char) : Bool := letter.isAlpha && (mark == ':' || mark == '|')

/-- Whether a segment is a drive. -/
def isDrive : Segment → Bool
  | [letter, mark] => isDriveMark letter mark
  | _ => false

/-- Whether a segment is held in place: a drive, or one that a backslash ends.
The address need not be one of a file. -/
def isHeld : Segment → Bool
  | letter :: mark :: rest =>
      isDriveMark letter mark && (rest.isEmpty || rest.head? == some '\\')
  | _ => false

/-- A path in the making. -/
structure Course where
  /-- The segments so far, the last one first. -/
  before : List Segment
  /-- Whether the path was found to begin with a drive, which leaves no room for
  a host. -/
  onDrive : Bool
  deriving DecidableEq, Repr, Inhabited

namespace Course

/-- The path with one segment less, unless that one is held in place. -/
def up (course : Course) : Course :=
  match course.before with
  | [] => course
  | last :: rest => if isHeld last then course else { course with before := rest }

/-- The path with one segment more.  At the start of a file address a drive is
written with a colon, and what is joined to a drive becomes a segment of its
own. -/
def add (file : Bool) (course : Course) (segment : Segment) : Course :=
  match file && course.before.isEmpty, segment with
  | true, [letter, mark] =>
      if isDriveMark letter mark then ⟨[[letter, ':']], true⟩ else ⟨[segment], course.onDrive⟩
  | true, letter :: ':' :: rest =>
      if letter.isAlpha then ⟨[rest, [letter, ':']], course.onDrive⟩
      else ⟨[segment], course.onDrive⟩
  | _, _ => { course with before := segment :: course.before }

/-- The path after a segment that may be a dot segment. -/
def take (file : Bool) (course : Course) (segment : Segment) : Course :=
  if isUp segment then course.up else if isHere segment then course else course.add file segment

/-- Take segments in turn.  A dot segment at the end leaves an empty segment. -/
def settle (file : Bool) (course : Course) : List Segment → Course
  | [] => course
  | [last] =>
      let settled := course.take file last
      if isUp last || isHere last then { settled with before := [] :: settled.before } else settled
  | segment :: rest => settle file (course.take file segment) rest

end Course

/-- Drop empty segments at the start as long as another segment follows. -/
def dropEmpty : List Segment → List Segment
  | [] :: next :: rest => dropEmpty (next :: rest)
  | list => list

/-- The segments of a finished path.  In a file address none at the start is
empty. -/
def Course.list (file : Bool) (course : Course) : List Segment :=
  if file then dropEmpty course.before.reverse else course.before.reverse

/-- Cut the text of a path into segments. -/
def cut (special : Bool) (text : List Char) : List Segment :=
  Text.split '/' (if special then text.map fun char => if char = '\\' then '/' else char else text)

/-- Read the text of a path after its leading slash. -/
def read (special file : Bool) (text : List Char) : Course :=
  Course.settle file ⟨[], false⟩ ((cut special text).map (Text.Percent.encode reserved))

/-- Append one segment.  The empty path of a bare root is replaced. -/
def append (special file : Bool) (list : List Segment) (segment : List Char) : List Segment :=
  let before := if list = [[]] then [] else list
  let visible := segment.filter fun char => char != '\t' && char != '\n' && char != '\r'
  (Course.settle file ⟨before.reverse, false⟩
    [Text.Percent.encode (reservedInSegment special) visible]).list file

/-- Drop an empty last segment. -/
def dropLastEmpty (list : List Segment) : List Segment :=
  if 1 < list.length ∧ list.getLast? = some [] then list.dropLast else list

/-- Append segments, of which dot segments are left out. -/
def extend (special file : Bool) (list : List Segment) (segments : List (List Char)) :
    List Segment :=
  (segments.filter fun segment => segment != ['.'] && segment != ['.', '.']).foldl
    (append special file) (dropLastEmpty list)

end Path

end CertPress.Url

namespace CertPress.FilePath

/-- The names of the path after a scheme and two slashes, each after a slash. -/
def fileChars (path : FilePath) : List Char :=
  if path.names.isEmpty then ['/']
  else path.names.flatMap fun name =>
    '/' :: Text.Percent.encode (Url.Path.reservedInSegment true) name.toList

/-- The address of the file at an absolute path; none for a relative one. -/
def fileUrl? (path : FilePath) : Option String :=
  if path.isAbsolute then some ("file://" ++ String.ofList path.fileChars) else none

end CertPress.FilePath
