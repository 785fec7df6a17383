import CertPress.Url.Basic

/-!
# Reading addresses

An absolute address is read in the order of its parts: scheme, authority, path,
query, fragment.  Controls and spaces around the address and tabs and line
breaks inside it are dropped.  Every part is brought into its written form on
the way.
-/

namespace CertPress.Url

/-- Whether a character is dropped at both ends of an address. -/
def isEdge (char : Char) : Bool := char.toNat ≤ 0x20

/-- The characters of an address that count. -/
def significant (chars : List Char) : List Char :=
  ((chars.dropWhile isEdge).reverse.dropWhile isEdge).reverse.filter fun char =>
    char != '\t' && char != '\n' && char != '\r'

/-- Whether a character may stand in a scheme after the first letter. -/
def inScheme (char : Char) : Bool :=
  char.isAlphanum || char == '+' || char == '-' || char == '.'

/-- The scheme in small letters and the text after its colon. -/
def readScheme (chars : List Char) : Option (List Char × List Char) :=
  match chars with
  | first :: _ =>
      if first.isAlpha then
        match chars.dropWhile inScheme with
        | ':' :: rest => some ((chars.takeWhile inScheme).map Char.toLower, rest)
        | _ => none
      else none
  | [] => none

/-- Whether a character ends the authority. -/
def endsAuthority (special : Bool) (char : Char) : Bool :=
  char == '/' || char == '?' || char == '#' || (special && char == '\\')

/-- The characters that are percent-encoded in user information. -/
def reservedInUser : List Char :=
  Path.reserved ++ ['/', ':', ';', '=', '@', '[', '\\', ']', '^', '|']

/-- The characters that are percent-encoded in a query. -/
def reservedInQuery (special : Bool) : List Char :=
  [' ', '"', '#', '<', '>'] ++ (if special then ['\''] else [])

/-- The characters that are percent-encoded in a fragment. -/
def reservedInFragment : List Char := [' ', '"', '<', '>', Char.ofNat 0x60]

/-- The written form of user information.  An empty password is left out. -/
def userInfo (chars : List Char) : List Char :=
  match Text.cut? [':'] chars with
  | some (user, password) =>
      Text.Percent.encode reservedInUser user ++
        (if password.isEmpty then [] else ':' :: Text.Percent.encode reservedInUser password)
  | none => Text.Percent.encode reservedInUser chars

/-- The user information and the text after it.  It ends at the last at sign of
the authority.  A lone at sign may only be the end of the address, so it matters
whether a query or a fragment follows. -/
def readUser (special followed : Bool) (chars : List Char) :
    Option (List Char × List Char) :=
  let authority := chars.takeWhile (!endsAuthority special ·)
  let rest := chars.dropWhile (!endsAuthority special ·)
  match Text.cutLast? ['@'] authority with
  | none => some ([], chars)
  | some (user, host) =>
      if user.isEmpty && host.isEmpty && (followed || !rest.isEmpty) then none
      else some (userInfo user, host ++ rest)

/-- The text of a host and the text after it.  A colon in brackets belongs to
the host. -/
def spanHost (special : Bool) (bracketed : Bool) : List Char → List Char × List Char
  | [] => ([], [])
  | char :: rest =>
      if (char == ':' && !bracketed) || endsAuthority special char then ([], char :: rest)
      else
        let inside := if char == '[' then true else if char == ']' then false else bracketed
        let (host, after) := spanHost special inside rest
        (char :: host, after)

/-- The port after the colon and the text after it.  The usual port of a scheme
is not written. -/
def readPort (scheme : List Char) (chars : List Char) : Option (Option Nat × List Char) :=
  let rest := chars.dropWhile Char.isDigit
  let ended := match rest with
    | [] => true
    | char :: _ => endsAuthority true char
  if !ended then none
  else match Text.decimal? (chars.takeWhile Char.isDigit) with
    | none => some (none, rest)
    | some port =>
        if 0xFFFF < port then none
        else some (if usualPort? scheme = some port then none else some port, rest)

/-- The host of an address.  Only an address without a special scheme may leave
it empty. -/
def readHost (special : Bool) (chars : List Char) : Option (Option Host) :=
  if special then (Host.ofSpecial? chars).map some
  else if chars.isEmpty then some none
  else (Host.ofPlain? chars).map some

/-- The authority after the two slashes and the text after it. -/
def readAuthority (scheme : List Char) (followed : Bool) (chars : List Char) :
    Option (Authority × List Char) := do
  let special := isSpecial scheme
  let (user, afterUser) ← readUser special followed chars
  let (hostText, afterHost) := spanHost special false afterUser
  let host ← readHost special hostText
  match afterHost with
  | ':' :: portText =>
      if host.isNone then none
      let (port, rest) ← readPort scheme portText
      return (⟨user, host, port⟩, rest)
  | _ =>
      if host.isNone && !user.isEmpty then none
      return (⟨user, host, none⟩, afterHost)

/-- The path after an authority.  Only an address without a special scheme may
leave it empty. -/
def readPath (special : Bool) (chars : List Char) : Path :=
  match chars with
  | [] => if special then .segments [[]] else .segments []
  | char :: rest =>
      let text := if special || char == '/' then rest else chars
      .segments ((Path.read special false text).list false)

/-- Whether a character is a slash of a file address. -/
def isSlash (char : Char) : Bool := char == '/' || char == '\\'

/-- The path of a file address. -/
def filePath (text : List Char) : Path := .segments ((Path.read true true text).list true)

/-- The authority of a file address on this machine. -/
def localAuthority : Authority := ⟨[], none, none⟩

/-- The authority and path of a file address after its two slashes.  A drive is
no host, the local host is left out, and a path that begins with a drive has no
host either. -/
def readFileHost (chars : List Char) : Option (Authority × Path) :=
  let hostText := chars.takeWhile (!isSlash ·)
  let after := chars.dropWhile (!isSlash ·)
  if Path.isDrive hostText then some (localAuthority, filePath chars)
  else if hostText.isEmpty then some (localAuthority, filePath after)
  else do
    let host ← Host.ofSpecial? hostText
    if host == .domain "localhost".toList then return (localAuthority, filePath after)
    let course := Path.read true true (after.drop 1)
    return (⟨[], if course.onDrive then none else some host, none⟩, .segments (course.list true))

/-- The authority and path of a file address. -/
def readFile (chars : List Char) : Option (Authority × Path) :=
  match chars with
  | [] => some (localAuthority, filePath [])
  | first :: rest =>
      if !isSlash first then some (localAuthority, filePath chars)
      else if rest.head?.any isSlash then readFileHost (rest.drop 1)
      else some (localAuthority, filePath rest)

/-- The authority and path of an address, which a query or a fragment may
follow.  Without two slashes a scheme that is not special has no authority. -/
def readParts (scheme : List Char) (followed : Bool) (chars : List Char) :
    Option (Option Authority × Path) :=
  if isFile scheme then (readFile chars).map fun (authority, path) => (some authority, path)
  else if isSpecial scheme then do
    let (authority, rest) ← readAuthority scheme followed (chars.dropWhile isSlash)
    return (some authority, readPath true rest)
  else match chars with
    | '/' :: '/' :: rest => do
        let (authority, after) ← readAuthority scheme followed rest
        return (some authority, readPath false after)
    | '/' :: rest => some (none, .segments ((Path.read false false rest).list false))
    | _ => some (none, .plain (Text.Percent.encode [] chars))

/-- Read an absolute address. -/
def ofChars? (chars : List Char) : Option Url := do
  let (scheme, rest) ← readScheme (significant chars)
  let (beforeFragment, fragment) := match Text.cut? ['#'] rest with
    | some (before, after) => (before, some after)
    | none => (rest, none)
  let (beforeQuery, query) := match Text.cut? ['?'] beforeFragment with
    | some (before, after) => (before, some after)
    | none => (beforeFragment, none)
  let (authority, path) ← readParts scheme (query.isSome || fragment.isSome) beforeQuery
  return {
    scheme, authority, path
    guarded := authority.isNone && ['/', '/'].isPrefixOf path.chars
    query := query.map (Text.Percent.encode (reservedInQuery (isSpecial scheme)))
    fragment := fragment.map (Text.Percent.encode reservedInFragment) }

/-- Read an absolute address. -/
def ofText? (text : String) : Option Url := ofChars? text.toList

end CertPress.Url
