import CertPress.Render.Cache
import CertPress.Render.Pipeline
import CertPress.Service.Message

/-!
# Certificates

The requests that render.  A preview and a download store nothing but images of
the payload.  Generation has two phases: first the document is checked and its
record stored, then it is rendered and the PDF attached.  A render that fails
leaves the record without a PDF.
-/

namespace CertPress.Service

open Json (Object Decoder Fields)
open Record (ArtifactFormat Authoritative Category Document DocumentDetails Organization
  Submission Template)
open Render (Job Renderer TemplateCache)
open Print (Machine RenderAction)

/-- A request for a render. -/
structure CertificateRequest where
  template : Uuid
  organization : Option Uuid
  data : Object
  /-- The document that the render belongs to. -/
  document : Option Uuid
  deriving Inhabited

namespace CertificateRequest

/-- The fields of a request. -/
def fields : List (String × Json.Check) :=
  [("template_id", Decoder.uuid.check), ("organization_id", Decoder.uuid.optional.check),
   ("certificate_data", Decoder.object.check), ("document_id", Decoder.uuid.optional.check)]

/-- Read a request; only the template has to be given. -/
def decoder : Decoder CertificateRequest := fun depth raw => do
  let fields ← Fields.ofRaw fields depth raw
  return {
    template := ← fields.required "template_id" Decoder.uuid
    organization := ← fields.withDefault "organization_id" none Decoder.uuid.optional
    data := ← fields.withDefault "certificate_data" Mapping.empty Decoder.object
    document := ← fields.withDefault "document_id" none Decoder.uuid.optional }

end CertificateRequest

/-- What a request cannot choose: the time, and the identifier of a new
document. -/
structure Moment where
  now : Time.Timestamp
  freshId : Uuid
  deriving Inhabited

/-- What a service works with: its renderer and the directory of the records. -/
structure Workshop where
  renderer : Renderer
  records : FilePath
  deriving Inhabited

/-- What requests change. -/
structure ServiceState where
  machine : Machine
  cache : TemplateCache
  deriving Inhabited

/-- The work on a request. -/
abbrev Handler (α : Type) := ExceptT ApiFault (StateM ServiceState) α

namespace Handler

/-- Ask the cache of templates. -/
def cached {α : Type} (ask : TemplateCache → Disk → Except ExportFault α × TemplateCache) :
    Handler α := fun state =>
  let (result, cache) := ask state.cache state.machine.disk
  (result.mapError ApiFault.ofExport, { state with cache })

/-- Read from the disk. -/
def reading {α : Type} (read : Disk → Except ApiFault α) : Handler α := fun state =>
  (read state.machine.disk, state)

/-- Write to the disk. -/
def storing {α : Type} (action : StoreAction α) : Handler α := fun state =>
  let (result, disk) := action state.machine.disk
  (result.mapError ApiFault.ofStore, { state with machine := { state.machine with disk } })

/-- Render, and go on whether or not that succeeds. -/
def rendering {α : Type} (action : RenderAction α) : Handler (Except ExportFault α) :=
  fun state =>
    let (result, machine) := action state.machine
    (.ok result, { state with machine })

/-- Render. -/
def rendered {α : Type} (action : RenderAction α) : Handler α := do
  match ← rendering action with
  | .ok value => return value
  | .error fault => throw (ApiFault.ofExport fault)

end Handler

/-- The organization of a document, read from its record.  Categories that need
none have none. -/
def loadOrganization (records : FilePath) (category : Category) (organization : Option Uuid)
    (disk : Disk) : Except ApiFault (Option Organization) :=
  match organization.filter fun _ => category.requiresOrganization with
  | none => .ok none
  | some id =>
      match Store.loadRecord Organization.decoder records (Record.Key.organization id) disk with
      | .ok organization => .ok (some organization)
      | .error (.notFound _) => .error (.notFound ("organization not found: " ++ id.text))
      | .error fault => .error (ApiFault.ofStore fault)

/-- The trusted facts of a document. -/
def factsOf (moment : Moment) (details : DocumentDetails) (organization : Option Organization) :
    Authoritative :=
  { date := some moment.now.dayFirst
    displayName := details.displayName.filter fun name => !Text.blank name
    organization }

/-- The job of a preview or a download. -/
def buildJob (workshop : Workshop) (moment : Moment) (request : CertificateRequest) :
    Handler Job := do
  let template ← Handler.cached (·.get request.template)
  let organization ← Handler.reading
    (loadOrganization workshop.records template.category request.organization)
  let details := DocumentDetails.ofData template.category request.data ""
  return {
    template
    data := request.data
    facts := factsOf moment details organization
    owner := request.document.getD template.id }

/-- The response with an artifact for download. -/
def attachment (format : ArtifactFormat) (document : Uuid) (content : Bytes) : Response :=
  { Response.ofContent format.mediaType content with
    disposition := some ("attachment; filename=" ++ format.filename document) }

/-- Render HTML for a browser. -/
def previewPage (workshop : Workshop) (moment : Moment) (request : CertificateRequest) :
    Handler Response := do
  let job ← buildJob workshop moment request
  let preview ← Handler.rendered (workshop.renderer.preview job)
  return .ofContent "text/html; charset=utf-8" (bytesOf preview.html)

/-- Render a PDF for download. -/
def downloadPdf (workshop : Workshop) (moment : Moment) (request : CertificateRequest) :
    Handler Response := do
  let job ← buildJob workshop moment request
  let final ← Handler.rendered (workshop.renderer.final job false)
  return attachment .pdf job.owner final.pdf

/-- Render an image of the first page for download. -/
def downloadImage (workshop : Workshop) (moment : Moment) (request : CertificateRequest) :
    Handler Response := do
  let job ← buildJob workshop moment request
  let final ← Handler.rendered (workshop.renderer.final job true)
  match final.image with
  | some image =>
      return attachment workshop.renderer.settings.raster.format.artifact job.owner image
  | none => throw .internal

/-- The first phase of generation: check the payload, store the record, and
give the job that renders it. -/
def createRecord (workshop : Workshop) (moment : Moment) (request : CertificateRequest) :
    Handler (Document × Job) := do
  let template ← Handler.cached (·.get request.template)
  let submission : Submission := {
    id := request.document.getD moment.freshId
    data := request.data
    organizationId := request.organization
    createdBy := none
    fallbackName := ""
    generatedAt := moment.now }
  let document ← (Document.create template submission).mapError ApiFault.ofRecord
  let organization ← Handler.reading
    (loadOrganization workshop.records template.category document.organizationId)
  Handler.storing
    (Store.saveRecord workshop.records (Record.Key.document document.id) document.toValue)
  let job : Job := {
    template
    data := request.data
    facts := factsOf moment document.details organization
    owner := document.id }
  return (document, job)

/-- The document with the paths of the images that a render stored. -/
def recordImages (document : Document) (stored : List Asset.StoredImage) : Document :=
  stored.foldl
    (fun document image => (document.recordAsset? image.field image.path).getD document)
    document

/-- The second phase of generation: store the PDF and attach it to the
record. -/
def attachFinal (workshop : Workshop) (document : Document) (final : Render.Final) :
    Handler Document := do
  let withImages := recordImages document final.stored
  let root := workshop.renderer.settings.assetRoots.primary.directory
  let path ← Handler.storing
    (Store.saveArtifact root final.pdf document.id ArtifactFormat.pdf.extension)
  let complete := withImages.attachPdf path
  Handler.storing
    (Store.saveRecord workshop.records (Record.Key.document document.id) complete.toValue)
  return complete

/-- Create a document. -/
def generate (workshop : Workshop) (moment : Moment) (request : CertificateRequest) :
    Handler Response := do
  let (document, job) ← createRecord workshop moment request
  match ← Handler.rendering (workshop.renderer.final job false) with
  | .ok final => return .ofJson 201 (← attachFinal workshop document final).toValue
  | .error _ => return .ofJson 201 document.toValue

end CertPress.Service
