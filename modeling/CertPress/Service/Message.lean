import CertPress.Json.Decoder
import CertPress.Print.Converter
import CertPress.Record.Document
import CertPress.Text.MediaType
import CertPress.Url.Read

/-!
# Requests and responses

What a client sends and gets, and how a failure becomes an answer.  An internal
failure is told without its reason.
-/

namespace CertPress.Service

open Json (Value Decoder)
open Record (RecordFault)

/-- A request. -/
structure Request where
  method : String
  /-- The path with percent groups and maybe with a query, or a whole web
  address. -/
  address : String
  contentType : Option String
  body : Bytes
  deriving Inhabited

/-- The path of a request without its query.  The path of a web address without
one is the root, and an address that is neither has none. -/
def Request.path (request : Request) : List Char :=
  let place := request.address.toList.takeWhile fun char => char != '?' && char != '#'
  if place.head? = some '/' then place
  else match Text.after? [':', '/', '/'] (place.dropWhile Url.inScheme) with
    | some server => if server.contains '/' then server.dropWhile (· != '/') else ['/']
    | none => []

/-- What a response carries. -/
inductive Body where
  | none
  | json (value : Value)
  | content (mediaType : String) (bytes : Bytes)
  deriving Inhabited

/-- A response. -/
structure Response where
  status : Nat
  disposition : Option String
  body : Body
  deriving Inhabited

namespace Response

/-- A response without content. -/
def bare (status : Nat) : Response := ⟨status, none, .none⟩

/-- A response with JSON. -/
def ofJson (status : Nat) (value : Value) : Response := ⟨status, none, .json value⟩

/-- A response with the content of a file. -/
def ofContent (mediaType : String) (bytes : Bytes) : Response :=
  ⟨200, none, .content mediaType bytes⟩

/-- A response without what it carries. -/
def headOnly (response : Response) : Response := { response with body := .none }

end Response

/-- Why a request is not served. -/
inductive ApiFault where
  | notFound (message : String)
  /-- The request is understood but cannot be served as it is. -/
  | unprocessable (message : String)
  /-- No program for the request is installed. -/
  | unavailable (message : String)
  | internal
  /-- The request cannot be read; the status tells why. -/
  | unreadable (status : Nat)
  deriving DecidableEq, Repr, Inhabited

namespace ApiFault

/-- The body of an answer that tells of an error. -/
def body (message : String) : Value := .object [("error", .string message)]

/-- The answer to a request that is not served. -/
def response : ApiFault → Response
  | .notFound message => .ofJson 404 (body message)
  | .unprocessable message => .ofJson 422 (body message)
  | .unavailable message => .ofJson 503 (body message)
  | .internal => .ofJson 500 (body "internal server error")
  | .unreadable status => .bare status

/-- A fault of a store. -/
def ofStore (fault : StoreFault) : ApiFault :=
  match fault with
  | .notFound _ => .notFound fault.message
  | _ => .internal

/-- A fault of a render. -/
def ofExport (fault : ExportFault) : ApiFault :=
  match fault with
  | .configuration reason => .unavailable reason
  | .content reason => .unprocessable reason
  | .templateNotFound _ => .notFound fault.message
  | .storage inner => ofStore inner
  | .render _ _ => .internal
  | .worker => .internal

/-- A fault of a record. -/
def ofRecord (fault : RecordFault) : ApiFault := .unprocessable fault.message

end ApiFault

/-- Read the JSON body of a request.  A body that is not announced as JSON, is
no JSON, or has another shape is refused, each with its own status. -/
def readJson {α : Type} (decoder : Decoder α) (request : Request) : Except ApiFault α :=
  if (request.contentType.map Text.isJson).getD false then
    match decoder.readBytes request.body with
    | .ok value => .ok value
    | .error .malformed => .error (.unreadable 400)
    | .error .mismatched => .error (.unreadable 422)
  else .error (.unreadable 415)

end CertPress.Service
