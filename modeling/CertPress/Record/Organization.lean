import CertPress.Record.Template

/-!
# Organizations

The issuing organization of a document, the fields that templates see of it,
and the trusted facts that a render starts from.
-/

namespace CertPress.Record

open Json (Value Object Decoder Fields)

/-- An organization.  The logo is a path of a stored image or an address. -/
structure Organization where
  id : Uuid
  name : String
  address : String
  area : String
  city : String
  state : String
  country : String
  pincode : String
  phoneNumber : String
  alternateNumber : String
  email : String
  website : String
  logo : String
  deriving DecidableEq, Repr, Inhabited

namespace Organization

/-- The fields of the record. -/
def fields : List (String × Json.Check) :=
  ("id", Decoder.uuid.check) ::
    ["name", "address", "area", "city", "state", "country", "pincode", "phone_number",
     "alternate_number", "email", "website", "logo"].map fun name =>
      (name, Decoder.text.check)

/-- Read an organization.  Every field but the identifier may be left out. -/
def decoder : Decoder Organization := fun depth raw => do
  let fields ← Fields.ofRaw fields depth raw
  let text (name : String) := fields.withDefault name "" Decoder.text
  return {
    id := ← fields.required "id" Decoder.uuid
    name := ← text "name"
    address := ← text "address"
    area := ← text "area"
    city := ← text "city"
    state := ← text "state"
    country := ← text "country"
    pincode := ← text "pincode"
    phoneNumber := ← text "phone_number"
    alternateNumber := ← text "alternate_number"
    email := ← text "email"
    website := ← text "website"
    logo := ← text "logo" }

/-- The record of an organization. -/
def toValue (organization : Organization) : Value :=
  .object
    [("id", .string organization.id.text), ("name", .string organization.name),
     ("address", .string organization.address), ("area", .string organization.area),
     ("city", .string organization.city), ("state", .string organization.state),
     ("country", .string organization.country), ("pincode", .string organization.pincode),
     ("phone_number", .string organization.phoneNumber),
     ("alternate_number", .string organization.alternateNumber),
     ("email", .string organization.email), ("website", .string organization.website),
     ("logo", .string organization.logo)]

/-- The fields that templates see under keys of their own. -/
def contextFields : List (String × String) :=
  [("name", "spa_name"), ("address", "spa_address"), ("area", "spa_area"),
   ("city", "spa_city"), ("state", "spa_state"), ("country", "spa_country"),
   ("pincode", "spa_pincode"), ("phone_number", "spa_phone"),
   ("alternate_number", "spa_phone1"), ("email", "spa_email"), ("website", "spa_website"),
   ("logo", "spa_logo")]

/-- The fields that templates see inside the block of the organization. -/
def blockFields : List (String × String) :=
  [("id", "id"), ("name", "name"), ("address", "address"), ("area", "area"),
   ("city", "city"), ("state", "state"), ("country", "country"), ("pincode", "pincode"),
   ("phone_number", "phone_number"), ("alternate_number", "alternate_number"),
   ("email", "email"), ("website", "website"), ("logo", "logo")]

end Organization

/-- What a template sees of the value of a field: a text is trimmed, and
nothing is the empty text. -/
def shown : Option Value → Value
  | some (.string text) => .string (Text.trimmed text)
  | some .null => .string ""
  | none => .string ""
  | some value => value

/-- The exposed fields of a record under the keys that they are exposed as. -/
def project (record : Value) (exposed : List (String × String)) : Object :=
  Mapping.ofList (exposed.map fun (field, key) => (key, shown (record.member? field)))

/-- The facts that a render takes from trusted sources only. -/
structure Authoritative where
  date : Option String
  displayName : Option String
  organization : Option Organization
  deriving DecidableEq, Repr, Inhabited

namespace Authoritative

/-- The fields of the record. -/
def fields : List (String × Json.Check) :=
  [("date", Decoder.text.optional.check), ("display_name", Decoder.text.optional.check),
   ("organization", Organization.decoder.optional.check)]

/-- Read trusted facts.  Each of them may be left out. -/
def decoder : Decoder Authoritative := fun depth raw => do
  let fields ← Fields.ofRaw fields depth raw
  return {
    date := ← fields.withDefault "date" none Decoder.text.optional
    displayName := ← fields.withDefault "display_name" none Decoder.text.optional
    organization := ← fields.withDefault "organization" none Organization.decoder.optional }

/-- The record of trusted facts. -/
def toValue (facts : Authoritative) : Value :=
  .object
    [("date", .ofText? facts.date), ("display_name", .ofText? facts.displayName),
     ("organization", (facts.organization.map Organization.toValue).getD .null)]

end Authoritative

end CertPress.Record
