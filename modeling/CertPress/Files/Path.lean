import CertPress.Text.Pieces

/-!
# File paths

A path is text in which slashes separate names.  Its text is kept as it was
given, because messages show it; the names that matter are read off when they
are needed.  Repeated slashes and single dots do not count, except for a dot at
the start of a relative path.
-/

namespace CertPress

/-- The path of a file. -/
structure FilePath where
  text : String
  deriving DecidableEq, Repr, Inhabited

namespace FilePath

/-- The pieces between slashes. -/
def pieces (path : FilePath) : List (List Char) := Text.split '/' path.text.toList

/-- Whether a piece of a path names nothing. -/
def isIdle (piece : List Char) : Bool := piece.isEmpty || piece == ['.']

/-- Whether the path starts at the root. -/
def isAbsolute (path : FilePath) : Bool := path.text.toList.head? == some '/'

/-- The names of the path in order, with `..` among them. -/
def names (path : FilePath) : List String :=
  (path.pieces.filter (!isIdle ·)).map String.ofList

/-- Whether the path is relative and starts with a single dot. -/
def startsHere (path : FilePath) : Bool := path.pieces.head? == some ['.']

/-- Whether the text of the path ends with a slash. -/
def endsWithSlash (path : FilePath) : Bool := path.text.toList.getLast? == some '/'

/-- Whether every part of the path is a name: it is relative, it does not start
at the current directory, and it never goes up. -/
def isInner (path : FilePath) : Bool :=
  !path.isAbsolute && !path.startsHere && !path.names.contains ".."

/-- The path of a relative path below this one.  An absolute path is kept. -/
def join (path : FilePath) (other : String) : FilePath :=
  if (⟨other⟩ : FilePath).isAbsolute then ⟨other⟩
  else if path.text = "" || path.endsWithSlash then ⟨path.text ++ other⟩
  else ⟨path.text ++ "/" ++ other⟩

/-- Pieces of a path, last one first, from the last that counts on. -/
def dropIdle (reversed : List (List Char)) : List (List Char) :=
  match reversed with
  | [] => []
  | [first] => if first == ['.'] then [first] else if first.isEmpty then [] else [first]
  | piece :: rest => if isIdle piece then dropIdle rest else reversed

/-- The path without its last part; none for the root and for the empty
path. -/
def parent? (path : FilePath) : Option FilePath :=
  match dropIdle path.pieces.reverse with
  | [] => none
  | _ :: before =>
      let kept := Text.join '/' (dropIdle before).reverse
      if path.isAbsolute && kept.isEmpty then some ⟨"/"⟩ else some ⟨String.ofList kept⟩

/-- The last name of the path, unless it goes up. -/
def lastName? (path : FilePath) : Option String :=
  path.names.getLast?.filter (· != "..")

/-- The last name cut at its last dot.  A name that starts with its only dot
has no extension. -/
def nameParts? (path : FilePath) : Option (String × Option String) :=
  path.lastName?.map fun name =>
    match Text.cutLast? ['.'] name.toList with
    | some (stem, ending) =>
        if stem.isEmpty then (name, none)
        else (String.ofList stem, some (String.ofList ending))
    | none => (name, none)

/-- The last name without its extension. -/
def stem? (path : FilePath) : Option String := path.nameParts?.map (·.1)

/-- The extension of the last name. -/
def extension? (path : FilePath) : Option String := path.nameParts?.bind (·.2)

/-- The path made absolute from a directory, without idle parts.  Two leading
slashes and a trailing one are kept; the empty path has no absolute form. -/
def absolute? (path workingDirectory : FilePath) : Option FilePath :=
  if path.text = "" then none
  else
    let chars := path.text.toList
    let start : FilePath :=
      if !path.isAbsolute then workingDirectory
      else if ['/', '/'].isPrefixOf chars && !(['/', '/', '/'].isPrefixOf chars) then ⟨"//"⟩
      else ⟨"/"⟩
    let full := path.names.foldl join start
    some (if path.endsWithSlash then full.join "" else full)

end FilePath

end CertPress
