import CertPress.Url.Host
import CertPress.Url.Path

/-!
# Addresses

An address has a scheme, for most schemes an authority, a path, and it may have
a query and a fragment.  All parts are kept in their written form, so `chars`
only puts them together.
-/

namespace CertPress

/-- Who serves an address: user information, a host and a port that is not the
usual one.  A file address may leave out all three. -/
structure Authority where
  userInfo : List Char
  host : Option Url.Host
  port : Option Nat
  deriving DecidableEq, Repr, Inhabited

/-- An absolute address. -/
structure Url where
  scheme : List Char
  authority : Option Authority
  /-- Whether a marker keeps the path from being taken for an authority. -/
  guarded : Bool
  path : Url.Path
  query : Option (List Char)
  fragment : Option (List Char)
  deriving DecidableEq, Repr, Inhabited

/-- The written form of an authority. -/
def Authority.chars (authority : Authority) : List Char :=
  (if authority.userInfo.isEmpty then [] else authority.userInfo ++ ['@']) ++
    (authority.host.map Url.Host.chars).getD [] ++
    (authority.port.map fun port => ':' :: Nat.toDigits 10 port).getD []

namespace Url

/-- The usual port of a special scheme other than `file`. -/
def usualPort? (scheme : List Char) : Option Nat :=
  match String.ofList scheme with
  | "http" => some 80
  | "https" => some 443
  | "ws" => some 80
  | "wss" => some 443
  | "ftp" => some 21
  | _ => none

/-- Whether a scheme is the one of files. -/
def isFile (scheme : List Char) : Bool := scheme == ['f', 'i', 'l', 'e']

/-- Whether addresses with a scheme have a host that is interpreted and a path
of segments. -/
def isSpecial (scheme : List Char) : Bool := isFile scheme || (usualPort? scheme).isSome

/-- The marker before a path that starts with two slashes, if no authority
stands before them. -/
def guard : List Char := ['/', '.']

/-- The written form of an address. -/
def chars (url : Url) : List Char :=
  url.scheme ++ ':' ::
    ((url.authority.map fun authority => '/' :: '/' :: authority.chars).getD [] ++
      (if url.guarded then guard else []) ++ url.path.chars ++
      (url.query.map ('?' :: ·)).getD [] ++ (url.fragment.map ('#' :: ·)).getD [])

/-- The written form of an address as a string. -/
def text (url : Url) : String := String.ofList url.chars

/-- The scheme, host and port that tell addresses of one server.  Only
addresses with a usual port have one. -/
def origin? (url : Url) : Option (List Char × Host × Nat) := do
  let usual ← usualPort? url.scheme
  let authority ← url.authority
  return (url.scheme, ← authority.host, authority.port.getD usual)

/-- Whether two addresses have the same origin. -/
def sameOrigin (left right : Url) : Bool :=
  match left.origin?, right.origin? with
  | some leftOrigin, some rightOrigin => leftOrigin == rightOrigin
  | _, _ => false

/-- The address with segments appended to its path.  A path without structure
is left alone. -/
def extend (url : Url) (segments : List (List Char)) : Url :=
  match url.path with
  | .plain _ => url
  | .segments list =>
      { url with path := .segments (Path.extend (isSpecial url.scheme) (isFile url.scheme) list
          segments) }

end Url

end CertPress
