import CertPress.Proofs.Record.Written
import CertPress.Proofs.Render.Beside
import CertPress.Proofs.Service.TwoPhase

/-!
# Downloads and generations

A download renders the job that a generation of the same document renders, from the state
before its record was stored.  If the record is stored beside the roots of images, then both
renders make the same PDF, so a download answers with what a generation stores.
-/

namespace CertPress.Service

open Record (Document)
open Render (Final Job)
open Store (Outside Straight)

variable {workshop : Workshop} {moment later : Moment} {input : CertificateRequest}
variable {state mid after : ServiceState} {document : Document} {job : Job} {id : Uuid}

/-! ## The job -/

/-- An organization that the category does not need is not loaded. -/
theorem loadOrganization_filter (records : FilePath) (category : Record.Category)
    (organization : Option Uuid) (disk : Disk) :
    loadOrganization records category
        (if category.requiresOrganization then organization else none) disk =
      loadOrganization records category organization disk := by
  cases required : category.requiresOrganization <;> simp [loadOrganization, required]

/-- The job of a download is that of a generation of the same document on the same day. -/
theorem buildJob_of_createRecord
    (created : createRecord workshop moment input state = (.ok (document, job), mid))
    (isDocument : input.document = some id) (sameDate : later.now.dayFirst = moment.now.dayFirst) :
    ∃ asked, buildJob workshop later input state = (.ok job, asked) ∧
      asked.machine = state.machine := by
  unfold createRecord at created
  obtain ⟨template, asked, found, rest⟩ := Action.bind_eq_ok.mp created
  obtain ⟨made, second, isMade, rest⟩ := Action.bind_eq_ok.mp rest
  obtain ⟨organization, third, loaded, rest⟩ := Action.bind_eq_ok.mp rest
  obtain ⟨_, fourth, saved, last⟩ := Action.bind_eq_ok.mp rest
  obtain ⟨same, rfl⟩ := Action.pure_eq_ok.mp last
  cases same
  obtain ⟨isCreated, rfl⟩ := Action.lift_eq_ok.mp isMade
  have isCreated := Action.mapError_eq_ok.mp isCreated
  obtain ⟨sameId, -⟩ := Document.create_eq_ok isCreated
  obtain ⟨details, organizationId⟩ := Document.columns_create isCreated
  refine ⟨asked, ?_, Handler.cached_eq_ok found⟩
  obtain rfl := Handler.reading_eq_ok loaded
  rw [organizationId] at loaded
  unfold Handler.reading at loaded
  rw [loadOrganization_filter] at loaded
  refine Action.bind_eq_ok.mpr ⟨template, _, found, ?_⟩
  refine Action.bind_eq_ok.mpr ⟨organization, _, loaded, ?_⟩
  refine Action.pure_eq_ok.mpr ⟨?_, rfl⟩
  rw [sameId, details, isDocument, factsOf, factsOf, sameDate]
  rfl

/-! ## The answers -/

/-- The disk is a tree on which the record of a document and the roots of images lie apart, and
the ways to all of them are straight. -/
structure Workshop.Separate (workshop : Workshop) (id : Uuid) (disk : Disk) : Prop where
  rooted : disk.Rooted
  records : Straight workshop.records disk
  straight : ∀ root ∈ workshop.renderer.settings.imageRoots, Straight root disk
  outside : ∀ root ∈ workshop.renderer.settings.imageRoots,
    Outside workshop.records "documents" (Record.Key.documentName id) root disk

theorem rendered_of_eq_ok {α : Type} {action : Print.RenderAction α} {value : α}
    {machine : Print.Machine} (done : action state.machine = (.ok value, machine)) :
    Handler.rendered action state = (.ok value, { state with machine }) := by
  have passed : Handler.rendering action state = (.ok (.ok value), { state with machine }) := by
    unfold Handler.rendering
    rw [done]
  exact Action.bind_eq_ok.mpr ⟨.ok value, _, passed, rfl⟩

/-- What the render of a generation makes is downloaded from the state before it. -/
theorem downloadPdf_of_createRecord {final : Final} {machine : Print.Machine}
    (functional : workshop.renderer.capabilities.PdfFunctional)
    (separate : workshop.Separate id state.machine.disk)
    (isDocument : input.document = some id) (sameDate : later.now.dayFirst = moment.now.dayFirst)
    (created : createRecord workshop moment input state = (.ok (document, job), mid))
    (rendered : workshop.renderer.final job false mid.machine = (.ok final, machine)) :
    ∃ last, downloadPdf workshop later input state =
      (.ok (attachment .pdf job.owner final.pdf), last) := by
  obtain ⟨sameId, written⟩ := put_of_createRecord created
  rw [isDocument, Option.getD_some] at sameId
  rw [sameId, Store.saveRecord, Record.Key.document_eq] at written
  have alike := Store.alike_put (Record.Key.plain_document id) separate.rooted
    separate.records separate.straight separate.outside written
  obtain ⟨asked, built, sameMachine⟩ := buildJob_of_createRecord created isDocument sameDate
  obtain ⟨same, last, isSame, samePdf⟩ := Render.final_alike alike functional rendered
  rw [← sameMachine] at isSame
  refine ⟨{ asked with machine := last }, Action.bind_eq_ok.mpr ⟨job, asked, built, ?_⟩⟩
  refine Action.bind_eq_ok.mpr ⟨same, _, rendered_of_eq_ok isSame, ?_⟩
  exact Action.pure_eq_ok.mpr ⟨by rw [samePdf], rfl⟩

/-- A record that is answered with a PDF was attached what the render made. -/
theorem generate_eq_attached {response : Response} {value : Json.Value} {path : String}
    (answered : generate workshop moment input state = (.ok response, after))
    (isBody : response.body = .json value)
    (hasPdf : value.member? "certificate_pdf" = some (.string path)) :
    ∃ document job mid final machine,
      createRecord workshop moment input state = (.ok (document, job), mid) ∧
      workshop.renderer.final job false mid.machine = (.ok final, machine) ∧
      Store.read workshop.images path after.machine.disk = .ok final.pdf := by
  have generated := generated_generate workshop moment input state
  rw [answered] at generated
  cases generated with
  | @unrendered document job mid fault machine created failed =>
      obtain ⟨-, noPdf, -⟩ := createRecord_eq_ok created
      cases isBody
      rw [Document.toValue, noPdf] at hasPdf
      cases hasPdf
  | @attached document record job mid _ final machine created rendered attached =>
      obtain ⟨-, isPdf, isRead, -⟩ := attachFinal_stores attached
      cases isBody
      have samePath : Record.Key.artifact document.id "pdf" = path := by
        rw [Document.toValue, isPdf] at hasPdf
        cases hasPdf
        rfl
      exact ⟨document, job, mid, final, machine, created, rendered, samePath ▸ isRead⟩

theorem handle_pdf {table : List (Route Endpoint)} {request : Request}
    (routes : table? workshop.renderer.settings = some table) (isPost : request.method = "POST")
    (isPath : request.path = "/certificates/pdf".toList) :
    handle workshop table moment request state =
      match readJson CertificateRequest.decoder request with
      | .error fault => (fault.response, state)
      | .ok input =>
          match downloadPdf workshop moment input state with
          | (.ok response, after) => (response, after)
          | (.error fault, after) => (fault.response, after) := by
  refine handle_post routes isPost (List.mem_of_getElem? (i := 7) rfl) isPath ?_
  simp only [answerAt, isPost, answerPost]

/-- A body is read alike at every path. -/
theorem readJson_congr {α : Type} (decoder : Json.Decoder α) {request other : Request}
    (sameType : other.contentType = request.contentType) (sameBody : other.body = request.body) :
    readJson decoder other = readJson decoder request := by
  rw [readJson, readJson, sameType, sameBody]

/-- Where the records and the roots of images lie apart, a document that is generated with a PDF
can be downloaded from the state before it, on the same day, and the download is the PDF that
the generation stored. -/
theorem handle_pdf_of_generate {table : List (Route Endpoint)} {generation download : Request}
    {response : Response} {value : Json.Value} {path : String}
    (routes : table? workshop.renderer.settings = some table)
    (generates : generation.method = "POST")
    (isGeneration : generation.path = "/certificates/generate".toList)
    (downloads : download.method = "POST") (isDownload : download.path = "/certificates/pdf".toList)
    (sameType : download.contentType = generation.contentType)
    (sameBody : download.body = generation.body)
    (isRead : readJson CertificateRequest.decoder generation = .ok input)
    (isDocument : input.document = some id)
    (sameDate : later.now.dayFirst = moment.now.dayFirst)
    (functional : workshop.renderer.capabilities.PdfFunctional)
    (separate : workshop.Separate id state.machine.disk)
    (answered : handle workshop table moment generation state = (response, after))
    (isNew : response.status = 201) (isBody : response.body = .json value)
    (hasPdf : value.member? "certificate_pdf" = some (.string path)) :
    ∃ answer last content, handle workshop table later download state = (answer, last) ∧
      answer.status = 200 ∧ answer.body = .content "application/pdf" content ∧
      Store.read workshop.images path after.machine.disk = .ok content := by
  rw [handle_generate routes generates isGeneration, isRead] at answered
  dsimp only at answered
  rcases generated : generate workshop moment input state with ⟨fault | created, last⟩
  · rw [generated] at answered
    obtain ⟨rfl, rfl⟩ := Prod.mk.inj answered
    obtain ⟨bound, -⟩ := machine_of_generate generated
    omega
  rw [generated] at answered
  obtain ⟨rfl, rfl⟩ := Prod.mk.inj answered
  obtain ⟨document, job, mid, final, machine, created, rendered, isStored⟩ :=
    generate_eq_attached generated isBody hasPdf
  obtain ⟨last, downloaded⟩ :=
    downloadPdf_of_createRecord functional separate isDocument sameDate created rendered
  refine ⟨attachment .pdf job.owner final.pdf, last, final.pdf, ?_, rfl, rfl, isStored⟩
  rw [handle_pdf routes downloads isDownload, readJson_congr _ sameType sameBody, isRead]
  dsimp only
  rw [downloaded]

/-! ## Bodies -/

namespace CertificateRequest

/-- The body that submits a request. -/
def toValue (request : CertificateRequest) : Json.Value :=
  .object
    [("template_id", .string request.template.text),
     ("organization_id", .ofText? (request.organization.map Uuid.text)),
     ("certificate_data", .ofObject request.data),
     ("document_id", .ofText? (request.document.map Uuid.text))]

/-- A request is read from its body. -/
theorem decoder_toValue {request : CertificateRequest}
    (exact : (Json.Value.ofObject request.data).Exact Record.objectLevels) :
    decoder Json.depthLimit (Json.Raw.ofValue request.toValue) = .ok request := by
  have isData : Json.Decoder.object (Json.depthLimit - 1)
      (Json.Raw.ofValue (.ofObject request.data)) = .ok request.data :=
    Json.Decoder.object_ofObject exact (by decide)
  obtain ⟨found, isFound, isDepth, isThere⟩ := Json.Fields.exists_ofRaw
    (rfl : request.toValue = .object _) (by decide : 1 < Json.depthLimit)
    (by decide : (fields.map (·.1)).Nodup) (by simp [fields, isData])
  simp only [List.forall_mem_cons] at isThere
  simp [decoder, isFound, Json.Fields.required, Json.Fields.withDefault, Json.Fields.get?, isThere,
    isDepth, isData, bind, Except.bind]
  rfl

end CertificateRequest

/-- A request that submits a body to an address. -/
def submit (address : String) (body : Json.Value) : Request where
  method := "POST"
  address
  contentType := some "application/json"
  body := bytesOf body.pretty

theorem readJson_submit (address : String)
    (exact : (Json.Value.ofObject input.data).Exact Record.objectLevels) :
    readJson CertificateRequest.decoder (submit address input.toValue) = .ok input := by
  have isRead := CertificateRequest.decoder_toValue exact
  generalize input.toValue = body at isRead ⊢
  exact readJson_of_pretty rfl rfl isRead

theorem path_submit (address : String) (body : Json.Value) :
    (submit address body).path = (submit address .null).path := rfl

theorem path_generate (body : Json.Value) :
    (submit "/certificates/generate" body).path = "/certificates/generate".toList :=
  (path_submit _ body).trans (by decide)

theorem path_pdf (body : Json.Value) :
    (submit "/certificates/pdf" body).path = "/certificates/pdf".toList :=
  (path_submit _ body).trans (by decide)

/-! ## Runs -/

/-- The PDF that a generation renders, on a disk that is ready for it. -/
def rendered? (workshop : Workshop) (state : ServiceState) (input : CertificateRequest) :
    Option Bytes :=
  match createRecord workshop default input state with
  | (.ok (_, job), mid) =>
      match isReady mid.machine.disk, (workshop.renderer.final job false mid.machine).1 with
      | true, .ok final => some final.pdf
      | _, _ => none
  | _ => none

/-- The PDF that a download makes. -/
def downloaded? (workshop : Workshop) (state : ServiceState) (input : CertificateRequest) :
    Option Bytes :=
  match downloadPdf workshop default input state with
  | (.ok ⟨200, _, .content "application/pdf" content⟩, _) => some content
  | _ => none

/-- What is rendered on a disk that is ready is stored. -/
theorem generate_of_rendered? {pdf : Bytes} {backend : Print.PdfBackend}
    (isBackend : workshop.renderer.capabilities.pdfBackend? = some backend)
    (prints : ∀ html pdfJob bench, ∃ pdf, backend.render html pdfJob bench = (.ok pdf, bench))
    (sameImages : workshop.images = plainWorkshop.images)
    (isRendered : rendered? workshop state input = some pdf) :
    ∃ value path after, generate workshop default input state = (.ok (.ofJson 201 value), after) ∧
      value.member? "certificate_pdf" = some (.string path) ∧
      Store.read workshop.images path after.machine.disk = .ok pdf := by
  unfold rendered? at isRendered
  split at isRendered
  next document job mid created =>
    split at isRendered
    next expected ready isExpected =>
      cases isRendered
      obtain ⟨built, _, _, _, _, isBuilt, -⟩ := Render.answered_of_final (Prod.ext isExpected rfl)
      have roomy : Store.Roomy plainWorkshop.images := ⟨by decide, by decide⟩
      have noUp : ".." ∉ Disk.route (plainWorkshop.images.join "certificates") := by decide
      have opened := open_of_isReady ready
      have within := within_of_isReady ready
      rw [← sameImages] at roomy noUp opened within
      obtain ⟨final, machine, record, after, rendered, attached, -⟩ := exists_second_phase created
        (Render.buildContext_eq_ok isBuilt).1 isBackend prints roomy opened noUp within
      rw [rendered] at isExpected
      cases isExpected
      obtain ⟨-, isPdf, isRead, -⟩ := attachFinal_stores attached
      have hasPdf : record.toValue.member? "certificate_pdf" =
          some (.ofText? record.certificatePdf) := rfl
      rw [isPdf] at hasPdf
      exact ⟨record.toValue, _, after, generate_of_phases created rendered attached, hasPdf, isRead⟩
    next => cases isRendered
  next => cases isRendered

section Runs

variable {table : List (Route Endpoint)} (routes : table? workshop.renderer.settings = some table)
variable (exact : (Json.Value.ofObject input.data).Exact Record.objectLevels)
include routes exact

theorem handle_of_generate {value : Json.Value}
    (generated : generate workshop default input state = (.ok (.ofJson 201 value), after)) :
    handle workshop table default (submit "/certificates/generate" input.toValue) state =
      (.ofJson 201 value, after) := by
  rw [handle_generate routes rfl (path_generate _), readJson_submit _ exact]
  dsimp only
  rw [generated]

theorem handle_of_downloaded? {downloaded : Bytes}
    (isDownloaded : downloaded? workshop state input = some downloaded) :
    ∃ answer last,
      handle workshop table default (submit "/certificates/pdf" input.toValue) state =
        (answer, last) ∧
      answer.body = .content "application/pdf" downloaded := by
  rw [handle_pdf routes rfl (path_pdf _), readJson_submit _ exact]
  unfold downloaded? at isDownloaded
  split at isDownloaded
  next content last downloads =>
    cases isDownloaded
    dsimp only
    rw [downloads]
    exact ⟨_, last, rfl, rfl⟩
  next => cases isDownloaded

end Runs

/-- A request for a document with a photo. -/
def photoRequest (photo : String) : CertificateRequest where
  template := .nil
  organization := none
  document := some .nil
  data := .ofList
    [("candidate_name", .string "A"), ("course_name", .string "B"), ("start_date", .string "C"),
     ("end_date", .string "D"), ("passport_size_photo", .string photo),
     ("candidate_signature", .string "F")]

theorem exact_photoRequest (photo : String) :
    (Json.Value.ofObject (photoRequest photo).data).Exact Record.objectLevels := by
  refine .mono (.ofList ?_) (by decide : 1 ≤ Record.objectLevels)
  simp [Json.Value.Exact.string]

/-- A workshop whose backend answers with the text of a page, and whose records lie in a
directory of the file system's root. -/
def echoWorkshop (uploads : String) : Workshop where
  renderer :=
    ⟨{ Settings.RenderSettings.default with assetRoots := ⟨⟨⟨"m"⟩, "m"⟩, ⟨⟨uploads⟩, "u"⟩⟩ },
      ⟨some ⟨"echo", none, fun html _ bench => (.ok (bytesOf html), bench)⟩, none, none⟩⟩
  records := ⟨"/r"⟩

/-- A disk with one image, and a template that shows a photo. -/
def echoState : ServiceState where
  machine := .start ((Disk.empty.set ["u"] .directory).set ["u", "a.png"] (.file [37] false))
  cache := ⟨⟨"/r"⟩,
    [(.nil, { plainCertificate with htmlSource := some "\x7b\x7bpassport_size_photo\x7d\x7d" })],
    none, 0⟩

theorem rooted_echoState : echoState.machine.disk.Rooted := by
  have rooted : (Disk.empty.set ([] ++ ["u"]) .directory).Rooted :=
    Disk.rooted_empty.set rfl (by decide) rfl .directory
  have rootedFile : ((Disk.empty.set ["u"] .directory).set (["u"] ++ ["a.png"])
      (.file [37] false)).Rooted := rooted.set (by decide) (by decide) (by decide) _
  exact rootedFile

theorem functional_echoWorkshop (uploads : String) :
    (echoWorkshop uploads).renderer.capabilities.PdfFunctional := by
  rintro backend ⟨⟩ html job bench other
  rfl

/-- What the workshop renders it stores. -/
theorem handle_echoWorkshop {uploads photo : String} {pdf : Bytes} {table : List (Route Endpoint)}
    (routes : table? (echoWorkshop uploads).renderer.settings = some table)
    (isRendered : rendered? (echoWorkshop uploads) echoState (photoRequest photo) = some pdf) :
    ∃ value path after,
      handle (echoWorkshop uploads) table default
        (submit "/certificates/generate" (photoRequest photo).toValue) echoState =
        (.ofJson 201 value, after) ∧
      value.member? "certificate_pdf" = some (.string path) ∧
      Store.read (echoWorkshop uploads).images path after.machine.disk = .ok pdf := by
  have isBackend : (echoWorkshop uploads).renderer.capabilities.pdfBackend? =
    some ⟨"echo", none, fun html _ bench => (.ok (bytesOf html), bench)⟩ := rfl
  have sameImages : (echoWorkshop uploads).images = plainWorkshop.images := rfl
  obtain ⟨value, path, after, generated, hasPdf, isRead⟩ :=
    generate_of_rendered? isBackend (fun html _ _ => ⟨bytesOf html, rfl⟩) sameImages isRendered
  have answered := handle_of_generate routes (exact_photoRequest photo) generated
  exact ⟨value, path, after, answered, hasPdf, isRead⟩

theorem separate_echoWorkshop (id : Uuid) :
    (echoWorkshop "/u").Separate id echoState.machine.disk := by
  have noUp : ∀ root ∈ (echoWorkshop "/u").renderer.settings.imageRoots,
      ".." ∉ Disk.route root := by decide
  have apart : ∀ root ∈ (echoWorkshop "/u").renderer.settings.imageRoots,
      ¬ (echoState.machine.disk.place root).Covers
          (echoState.machine.disk.place (echoWorkshop "/u").records ++ ["documents"]) ∧
        ¬ (echoState.machine.disk.place (echoWorkshop "/u").records ++ ["documents"]).Covers
          (echoState.machine.disk.place root) := by decide +kernel
  exact ⟨rooted_echoState, .inr (by decide), fun root member => .inr (noUp root member),
    fun root member => ⟨(apart root member).1,
      fun covers => (apart root member).2 ((Location.Covers.concat _ _).trans covers)⟩⟩

/-- The case of a document with an image from the second root. -/
theorem handle_pdf_of_generate_photo :
    ∃ table value path after answer last,
      table? (echoWorkshop "/u").renderer.settings = some table ∧
      handle (echoWorkshop "/u") table default
        (submit "/certificates/generate" (photoRequest "a.png").toValue) echoState =
        (.ofJson 201 value, after) ∧
      value.member? "certificate_pdf" = some (.string path) ∧
      handle (echoWorkshop "/u") table default
        (submit "/certificates/pdf" (photoRequest "a.png").toValue) echoState = (answer, last) ∧
      answer.status = 200 ∧
      answer.body = .content "application/pdf" (bytesOf "file:///u/a.png") ∧
      Store.read (echoWorkshop "/u").images path after.machine.disk =
        .ok (bytesOf "file:///u/a.png") := by
  obtain ⟨table, routes⟩ : ∃ table, table? (echoWorkshop "/u").renderer.settings = some table :=
    Option.isSome_iff_exists.mp (by decide +kernel)
  have isRendered : rendered? (echoWorkshop "/u") echoState (photoRequest "a.png") =
      some (bytesOf "file:///u/a.png") := by decide +kernel
  obtain ⟨value, path, after, answered, hasPdf, isRead⟩ := handle_echoWorkshop routes isRendered
  obtain ⟨answer, last, content, downloads, isGood, isBody, isStored⟩ :=
    handle_pdf_of_generate routes rfl (path_generate _) rfl (path_pdf _) rfl rfl
      (readJson_submit _ (exact_photoRequest "a.png")) rfl rfl (functional_echoWorkshop "/u")
      (separate_echoWorkshop .nil) answered rfl rfl hasPdf
  cases isStored.symm.trans isRead
  exact ⟨table, value, path, after, answer, last, routes, answered, hasPdf, downloads, isGood,
    isBody, isStored⟩

/-- A generation stores a PDF that is not what is downloaded from the state before, although
the records lie outside the roots of images. -/
def Differs (workshop : Workshop) (state : ServiceState) (input : CertificateRequest) : Prop :=
  workshop.renderer.capabilities.PdfFunctional ∧ state.machine.disk.Rooted ∧
    (∀ root ∈ workshop.renderer.settings.imageRoots,
      ¬ (state.machine.disk.place root).Covers (state.machine.disk.place workshop.records)) ∧
    input.document.isSome ∧
    ∃ table value path after answer last stored downloaded,
      table? workshop.renderer.settings = some table ∧
      readJson CertificateRequest.decoder (submit "/certificates/generate" input.toValue) =
        .ok input ∧
      handle workshop table default (submit "/certificates/generate" input.toValue) state =
        (.ofJson 201 value, after) ∧
      value.member? "certificate_pdf" = some (.string path) ∧
      Store.read workshop.images path after.machine.disk = .ok stored ∧
      handle workshop table default (submit "/certificates/pdf" input.toValue) state =
        (answer, last) ∧
      answer.body = .content "application/pdf" downloaded ∧ downloaded ≠ stored

theorem differs_echo {uploads photo : String} {stored downloaded : Bytes}
    (routes : (table? (echoWorkshop uploads).renderer.settings).isSome)
    (outside : ∀ root ∈ (echoWorkshop uploads).renderer.settings.imageRoots,
      ¬ (echoState.machine.disk.place root).Covers (echoState.machine.disk.place ⟨"/r"⟩))
    (isRendered : rendered? (echoWorkshop uploads) echoState (photoRequest photo) = some stored)
    (isDownloaded :
      downloaded? (echoWorkshop uploads) echoState (photoRequest photo) = some downloaded)
    (differ : downloaded ≠ stored) :
    Differs (echoWorkshop uploads) echoState (photoRequest photo) := by
  have exact := exact_photoRequest photo
  obtain ⟨table, isTable⟩ := Option.isSome_iff_exists.mp routes
  obtain ⟨value, path, after, answered, hasPdf, isRead⟩ := handle_echoWorkshop isTable isRendered
  obtain ⟨answer, last, downloads, isBody⟩ := handle_of_downloaded? isTable exact isDownloaded
  exact ⟨functional_echoWorkshop uploads, rooted_echoState, outside, rfl, table, value, path, after,
    answer, last, stored, downloaded, isTable, readJson_submit _ exact, answered, hasPdf, isRead,
    downloads, isBody, differ⟩

/-- The record that a generation stores first can open the way to a root, and it can be found
as an image itself. -/
theorem handle_pdf_differs :
    Differs (echoWorkshop "/r/documents/../../u") echoState (photoRequest "a.png") ∧
      Differs (echoWorkshop "/r/documents") echoState
        (photoRequest "00000000-0000-0000-0000-000000000000.json") := by
  have renderedOpened : rendered? (echoWorkshop "/r/documents/../../u") echoState
      (photoRequest "a.png") = some (bytesOf "file:///r/documents/../../u/a.png") := by
    decide +kernel
  have downloadedOpened : downloaded? (echoWorkshop "/r/documents/../../u") echoState
      (photoRequest "a.png") = some [] := by decide +kernel
  have renderedFound : rendered? (echoWorkshop "/r/documents") echoState
        (photoRequest "00000000-0000-0000-0000-000000000000.json") =
      some (bytesOf "file:///r/documents/00000000-0000-0000-0000-000000000000.json") := by
    decide +kernel
  have downloadedFound : downloaded? (echoWorkshop "/r/documents") echoState
      (photoRequest "00000000-0000-0000-0000-000000000000.json") = some [] := by decide +kernel
  exact ⟨differs_echo (by decide +kernel) (by decide +kernel) renderedOpened downloadedOpened
      (by decide +kernel),
    differs_echo (by decide +kernel) (by decide +kernel) renderedFound downloadedFound
      (by decide +kernel)⟩

end CertPress.Service
