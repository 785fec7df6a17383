import CertPress.Base64
import CertPress.Text.Ascii
import CertPress.Text.Blank
import CertPress.Text.Percent
import CertPress.Text.Pieces

/-!
# References to images

A field of a document refers to an image in one of four ways, which its start
tells apart: the image itself as a `data:` address, a path below one of the
asset roots, an address elsewhere, or an address that only one browser knows.

A `data:` address holds a media type with parameters, a comma, and the bytes of
the image in Base64 or percent encoding.
-/

namespace CertPress.Asset

/-! ## Kinds of references -/

/-- How a reference refers to an image. -/
inductive Reference where
  /-- A `data:` address, which holds the image. -/
  | embedded (address : String)
  /-- A path below one of the asset roots. -/
  | stored (path : String)
  /-- A web or file address. -/
  | external (address : String)
  /-- A `blob:` address, which only the browser that made it knows. -/
  | ephemeral (address : String)
  deriving DecidableEq, Repr, Inhabited

namespace Reference

/-- The reference itself. -/
def text : Reference → String
  | .embedded address => address
  | .stored path => path
  | .external address => address
  | .ephemeral address => address

/-- Whether a text starts with small ASCII characters in any case. -/
def startsAs (start : String) (text : String) : Bool :=
  start.toList.isPrefixOf (Text.lowerAscii text).toList

/-- Tell what a reference is.  Blanks around it do not count. -/
def classify (reference : String) : Reference :=
  let text := Text.trimmed reference
  if startsAs "data:" text then .embedded text
  else if startsAs "blob:" text then .ephemeral text
  else if startsAs "http://" text || startsAs "https://" text || startsAs "file://" text then
    .external text
  else .stored text

end Reference

/-! ## Data addresses -/

/-- An image with its media type. -/
structure Payload where
  mediaType : String
  content : Bytes
  deriving DecidableEq, Repr, Inhabited

namespace Payload

/-- The payload of an address after `data:`.  A payload without bytes is
none. -/
def ofChars? (chars : List Char) : Option Payload := do
  let (header, body) ← Text.cut? [','] chars
  let parameters := Text.split ';' header
  let inBase64 := parameters.tail.any fun parameter =>
    Text.equalIgnoringCase (Text.trim parameter) "base64".toList
  let content ←
    if inBase64 then Base64.decode? (body.filter (!Text.isBlank ·))
    else some (Text.Percent.decode body)
  if content.isEmpty then none
  else
    return ⟨Text.lowerAscii (String.ofList (Text.trim (parameters.headD []))), content⟩

/-- The payload of a `data:` address. -/
def ofUrl? (address : String) : Option Payload := ofChars? (address.toList.drop 5)

/-- The extension of a file with the payload.  Unknown types are taken for
PNG. -/
def extension (payload : Payload) : String :=
  match payload.mediaType with
  | "image/jpeg" => "jpg"
  | "image/jpg" => "jpg"
  | "image/gif" => "gif"
  | "image/webp" => "webp"
  | "image/svg+xml" => "svg"
  | _ => "png"

end Payload

end CertPress.Asset
