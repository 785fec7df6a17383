import CertPress.Record.Details

/-!
# Documents

A generated document.  It is built from the submitted payload before it is
rendered; the paths of its images and of its PDF are recorded afterwards.
-/

namespace CertPress.Record

open Json (Value Object Decoder Fields)

/-- Why a document cannot be built or a tag cannot be read. -/
inductive RecordFault where
  | invalidCategory (tag : String)
  | missingField (field : String)
  | organizationRequired (category : Category)
  deriving DecidableEq, Repr, Inhabited

/-- The wording of a fault. -/
def RecordFault.message : RecordFault → String
  | .invalidCategory tag => "invalid certificate category: " ++ tag
  | .missingField field => "missing required field: " ++ field
  | .organizationRequired category =>
      "an organization selection is required for " ++ category.tag ++ " documents"

/-- The category that a tag names. -/
def Category.parse (tag : String) : Except RecordFault Category :=
  match Category.ofTag? tag with
  | some category => .ok category
  | none => .error (.invalidCategory tag)

/-- A document.  `certificateData` is the payload as it was submitted. -/
structure Document where
  id : Uuid
  templateId : Uuid
  organizationId : Option Uuid
  createdBy : Option Uuid
  certificateData : Object
  certificatePdf : Option String
  isPublic : Bool
  generatedAt : Time.Timestamp
  details : DocumentDetails
  deriving Inhabited

/-- What a document is made from, its template apart. -/
structure Submission where
  id : Uuid
  data : Object
  organizationId : Option Uuid
  createdBy : Option Uuid
  fallbackName : String
  generatedAt : Time.Timestamp
  deriving Inhabited

namespace Document

/-- Build a document.  A category that needs an organization must have one, and
every required field must be filled in once other names and defaults are
applied.  Certificates of therapists are never tied to an organization. -/
def create (template : Template) (submission : Submission) : Except RecordFault Document :=
  let category := template.category
  if category.requiresOrganization && submission.organizationId.isNone then
    .error (.organizationRequired category)
  else
    let details := DocumentDetails.ofData category submission.data submission.fallbackName
    match details.firstMissing category.requiredFields with
    | some field => .error (.missingField field)
    | none => .ok {
        id := submission.id
        templateId := template.id
        organizationId :=
          if category.requiresOrganization then submission.organizationId else none
        createdBy := submission.createdBy
        certificateData := submission.data
        certificatePdf := none
        isPublic := template.isPublic
        generatedAt := submission.generatedAt
        details := details }

/-- The category of the document. -/
def category (document : Document) : Category := document.details.category

/-- The name of the subject, or the identifier where there is none. -/
def displayName (document : Document) : String :=
  match document.details.displayName with
  | some name => if name = "" then document.id.text else name
  | none => document.id.text

/-- Point a column for images at the file that its image was stored in, in the
details and in the payload; none where the field is no such column. -/
def recordAsset? (document : Document) (field path : String) : Option Document :=
  (document.details.setAsset? field path).map fun details =>
    { document with
      details := details
      certificateData :=
        if document.certificateData.contains field then
          document.certificateData.insert field (.string path)
        else document.certificateData }

/-- Record where the PDF was stored. -/
def attachPdf (document : Document) (path : String) : Document :=
  { document with certificatePdf := some path }

/-- The fields of the record. -/
def fields : List (String × Json.Check) :=
  [("id", Decoder.uuid.check), ("template_id", Decoder.uuid.check),
   ("organization_id", Decoder.uuid.optional.check), ("created_by", Decoder.uuid.optional.check),
   ("certificate_data", Decoder.object.check),
   ("certificate_pdf", Decoder.text.optional.check), ("is_public", Decoder.bool.check),
   ("generated_at", Decoder.timestamp.check), ("details", DocumentDetails.decoder.check)]

/-- Read a document. -/
def decoder : Decoder Document := fun depth raw => do
  let fields ← Fields.ofRaw fields depth raw
  return {
    id := ← fields.required "id" Decoder.uuid
    templateId := ← fields.required "template_id" Decoder.uuid
    organizationId := ← fields.nullable "organization_id" Decoder.uuid
    createdBy := ← fields.nullable "created_by" Decoder.uuid
    certificateData := ← fields.required "certificate_data" Decoder.object
    certificatePdf := ← fields.nullable "certificate_pdf" Decoder.text
    isPublic := ← fields.required "is_public" Decoder.bool
    generatedAt := ← fields.required "generated_at" Decoder.timestamp
    details := ← fields.required "details" DocumentDetails.decoder }

/-- The record of a document. -/
def toValue (document : Document) : Value :=
  .object
    [("id", .string document.id.text), ("template_id", .string document.templateId.text),
     ("organization_id", .ofText? (document.organizationId.map Uuid.text)),
     ("created_by", .ofText? (document.createdBy.map Uuid.text)),
     ("certificate_data", .ofObject document.certificateData),
     ("certificate_pdf", .ofText? document.certificatePdf),
     ("is_public", .bool document.isPublic),
     ("generated_at", .string document.generatedAt.text),
     ("details", document.details.toValue)]

end Document

end CertPress.Record
