import CertPress.Proofs.Files.Disk
import CertPress.Proofs.Keys
import CertPress.Proofs.Record.Document
import CertPress.Proofs.Render.Stored
import CertPress.Service.Certificates

/-!
# Documents that are generated

A document is generated in two phases.  When the render of the second phase
succeeds, the record that is stored last holds the paths of the images that the
render stored, for every field that has an image column.  What was submitted for
another field stays in the record, an embedded image too.
-/

namespace CertPress.Service

open Record (Category Document DocumentDetails Template)
open Render (Final Job)
open Asset (Payload Reference StoredImage)

section Record

variable {stored : List StoredImage}

theorem recordImages_cons (document : Document) (image : StoredImage) :
    recordImages document (image :: stored) =
      recordImages (document.recorded image.field image.path) stored := rfl

theorem recordImages_frame (document : Document) :
    (recordImages document stored).id = document.id ∧
      (recordImages document stored).category = document.category := by
  induction stored generalizing document with
  | nil => exact ⟨rfl, rfl⟩
  | cons image rest hypothesis =>
      obtain ⟨sameId, sameCategory⟩ := document.recorded_frame image.field image.path
      rw [recordImages_cons, ← sameId, ← sameCategory]
      exact hypothesis _

/-- A field keeps what was submitted for it unless an image is recorded for it. -/
theorem get?_recordImages_other (document : Document) {key : String}
    (other : key ∉ document.category.imageColumns ∨ ∀ image ∈ stored, image.field ≠ key) :
    (recordImages document stored).certificateData.get? key =
      document.certificateData.get? key := by
  induction stored generalizing document with
  | nil => rfl
  | cons image rest hypothesis =>
      obtain ⟨-, sameCategory⟩ := document.recorded_frame image.field image.path
      have step : (document.recorded image.field image.path).certificateData.get? key =
          document.certificateData.get? key := by
        rw [Document.get?_recorded, if_neg]
        rintro ⟨rfl, isColumn, -⟩
        exact other.elim (· isColumn) (· image (.head _) rfl)
      rw [recordImages_cons, hypothesis, step]
      rw [sameCategory]
      exact other.imp_right fun differ image member => differ image (.tail _ member)

/-- The path of an image is recorded if its field is an image column for which
something was submitted. -/
theorem get?_recordImages (document : Document) {image : StoredImage}
    (distinct : (stored.map StoredImage.field).Nodup) (member : image ∈ stored)
    (isColumn : image.field ∈ document.category.imageColumns)
    (present : document.certificateData.contains image.field) :
    (recordImages document stored).certificateData.get? image.field =
      some (.string image.path) := by
  induction stored generalizing document with
  | nil => exact absurd member List.not_mem_nil
  | cons first rest hypothesis =>
      obtain ⟨notLater, restDistinct⟩ := List.nodup_cons.mp distinct
      obtain ⟨-, sameCategory⟩ := document.recorded_frame first.field first.path
      rw [recordImages_cons]
      rcases List.mem_cons.mp member with rfl | inRest
      · rw [get?_recordImages_other, Document.get?_recorded, if_pos ⟨rfl, isColumn, present⟩]
        exact .inr fun other inOther same => notLater (same ▸ List.mem_map_of_mem inOther)
      · refine hypothesis _ restDistinct inRest (sameCategory ▸ isColumn) ?_
        rw [Mapping.contains, Document.get?_recorded]
        split
        next => rfl
        next => exact present

end Record

/-! ## The two phases -/

namespace Handler

variable {α : Type} {state after : ServiceState} {value : α}

theorem storing_eq_ok {action : StoreAction α}
    (done : storing action state = (.ok value, after)) :
    ∃ disk, action state.machine.disk = (.ok value, disk) ∧
      after = { state with machine := { state.machine with disk } } := by
  unfold storing at done
  rcases outcome : action state.machine.disk with ⟨fault | result, disk⟩
  · rw [outcome] at done
    cases done
  · rw [outcome] at done
    cases done
    exact ⟨disk, rfl, rfl⟩

theorem rendering_eq_ok {action : Print.RenderAction α} {outcome : Except ExportFault α}
    (done : rendering action state = (.ok outcome, after)) :
    ∃ machine, action state.machine = (outcome, machine) ∧ after = { state with machine } := by
  unfold rendering at done
  cases done
  exact ⟨_, rfl, rfl⟩

end Handler

variable {workshop : Workshop} {moment : Moment} {request : CertificateRequest}
variable {state mid after : ServiceState}

/-- A record that was stored is the text of its document. -/
theorem saveRecord_eq_ok {document : Document} {value : Unit}
    (saved : Handler.storing (Store.saveRecord workshop.records (Record.Key.document document.id)
      document.toValue) state = (.ok value, after)) :
    Store.read workshop.records (Record.Key.document document.id) after.machine.disk =
      .ok (bytesOf document.toValue.pretty) := by
  obtain ⟨disk, put, rfl⟩ := Handler.storing_eq_ok saved
  exact Store.read_put put

/-- The first phase makes a document with the submitted data and the job that renders
it, and stores its record. -/
theorem createRecord_eq_ok {document : Document} {job : Job}
    (created : createRecord workshop moment request state = (.ok (document, job), mid)) :
    document.certificateData = request.data ∧ document.certificatePdf = none ∧
      document.category = job.template.category ∧ job.data = request.data ∧
      job.owner = document.id ∧
      Store.read workshop.records (Record.Key.document document.id) mid.machine.disk =
        .ok (bytesOf document.toValue.pretty) := by
  unfold createRecord at created
  obtain ⟨template, first, -, rest⟩ := Action.bind_eq_ok.mp created
  obtain ⟨made, second, isMade, rest⟩ := Action.bind_eq_ok.mp rest
  obtain ⟨organization, third, -, rest⟩ := Action.bind_eq_ok.mp rest
  obtain ⟨_, fourth, saved, last⟩ := Action.bind_eq_ok.mp rest
  obtain ⟨same, rfl⟩ := Action.pure_eq_ok.mp last
  cases same
  obtain ⟨isDocument, -⟩ := Action.lift_eq_ok.mp isMade
  obtain ⟨-, sameCategory, sameData, noPdf⟩ :=
    Document.create_eq_ok (Action.mapError_eq_ok.mp isDocument)
  exact ⟨sameData, noPdf, sameCategory, rfl, rfl, saveRecord_eq_ok saved⟩

/-- The second phase stores the document with the paths of the images and of the
PDF. -/
theorem attachFinal_eq_ok {document complete : Document} {final : Final}
    (attached : attachFinal workshop document final state = (.ok complete, after)) :
    (∃ path, complete = (recordImages document final.stored).attachPdf path) ∧
      Store.read workshop.records (Record.Key.document complete.id) after.machine.disk =
        .ok (bytesOf complete.toValue.pretty) := by
  unfold attachFinal at attached
  obtain ⟨path, between, -, rest⟩ := Action.bind_eq_ok.mp attached
  obtain ⟨_, last, saved, done⟩ := Action.bind_eq_ok.mp rest
  obtain ⟨rfl, rfl⟩ := Action.pure_eq_ok.mp done
  refine ⟨⟨path, rfl⟩, ?_⟩
  have sameId : ((recordImages document final.stored).attachPdf path).id = document.id :=
    (recordImages_frame document).1
  rw [← sameId] at saved
  exact saveRecord_eq_ok saved

/-- Generation answers with the record of its second phase, or with that of the first
one if the render fails. -/
theorem generate_eq_ok {response : Response}
    (answered : generate workshop moment request state = (.ok response, after)) :
    ∃ document job mid, createRecord workshop moment request state = (.ok (document, job), mid) ∧
      ((∃ final machine record,
          workshop.renderer.final job false mid.machine = (.ok final, machine) ∧
          attachFinal workshop document final { mid with machine } = (.ok record, after) ∧
          response = .ofJson 201 record.toValue) ∨
        ∃ fault machine,
          workshop.renderer.final job false mid.machine = (.error fault, machine) ∧
          after = { mid with machine } ∧ response = .ofJson 201 document.toValue) := by
  unfold generate at answered
  obtain ⟨⟨document, job⟩, mid, created, rest⟩ := Action.bind_eq_ok.mp answered
  refine ⟨document, job, mid, created, ?_⟩
  obtain ⟨outcome, between, rendered, rest⟩ := Action.bind_eq_ok.mp rest
  obtain ⟨machine, isRendered, rfl⟩ := Handler.rendering_eq_ok rendered
  cases outcome with
  | ok final =>
      obtain ⟨record, _, attached, last⟩ := Action.bind_eq_ok.mp rest
      obtain ⟨rfl, rfl⟩ := Action.pure_eq_ok.mp last
      exact .inl ⟨final, machine, record, isRendered, attached, rfl⟩
  | error fault =>
      obtain ⟨rfl, rfl⟩ := Action.pure_eq_ok.mp rest
      exact .inr ⟨fault, machine, isRendered, rfl, rfl⟩

theorem Response.ofJson_inj {status : Nat} {left right : Json.Value}
    (same : Response.ofJson status left = .ofJson status right) : left = right := by
  simpa [Response.ofJson] using same

theorem generate_of_phases {document record : Document} {job : Job} {final : Final}
    {machine : Print.Machine}
    (created : createRecord workshop moment request state = (.ok (document, job), mid))
    (rendered : workshop.renderer.final job false mid.machine = (.ok final, machine))
    (attached : attachFinal workshop document final { mid with machine } = (.ok record, after)) :
    generate workshop moment request state = (.ok (.ofJson 201 record.toValue), after) := by
  have passed : Handler.rendering (workshop.renderer.final job false) mid =
      (.ok (.ok final), { mid with machine }) := by
    unfold Handler.rendering
    rw [rendered]
  refine Action.bind_eq_ok.mpr ⟨(document, job), mid, created, ?_⟩
  refine Action.bind_eq_ok.mpr ⟨.ok final, { mid with machine }, passed, ?_⟩
  exact Action.bind_eq_ok.mpr ⟨record, after, attached, Action.pure_eq_ok.mpr ⟨rfl, rfl⟩⟩

/-! ## What becomes of embedded images -/

/-- Neither trusted facts nor tables take the field of an image column. -/
theorem imageColumn_free {category : Category} {field : String}
    (isColumn : field ∈ category.imageColumns) :
    field ∉ Context.trustedKeys ∧ field ∉ category.excludedFields ∧ field ∉ Context.tableKeys := by
  have free : ∀ field ∈ category.imageColumns, field ∉ Context.trustedKeys ∧
      field ∉ category.excludedFields ∧ field ∉ Context.tableKeys := by
    cases category <;> decide
  exact free field isColumn

/-- What is submitted is what is resolved, unless a trusted fact or a table takes its field. -/
theorem referenceIn_of_submitted {job : Job} {field text : String}
    (notTrusted : field ∉ Context.trustedKeys)
    (reaches : field ∉ job.template.category.excludedFields) (notTable : field ∉ Context.tableKeys)
    (submitted : job.data.get? field = some (.string text)) (filled : text ≠ "") :
    Render.referenceIn (Context.normalize job.template.category job.data job.facts) field =
      text := by
  have isHeld : Markup.holds (.string text) := by simpa [Markup.holds] using filled
  rw [Render.referenceIn, Context.get?_normalize submitted isHeld notTrusted reaches notTable]
  rfl

/-- A record with a PDF is stored as it was answered.  It has the paths of the
submitted images that the render stored for image columns, and every other field as it
was submitted. -/
theorem generate_images {response : Response}
    (answered : generate workshop moment request state = (.ok response, after)) :
    ∃ record : Document, response = .ofJson 201 record.toValue ∧
      (record.certificatePdf.isSome →
        Store.read workshop.records (Record.Key.document record.id) after.machine.disk =
          .ok (bytesOf record.toValue.pretty) ∧
        ∃ document job mid final machine,
          createRecord workshop moment request state = (.ok (document, job), mid) ∧
          workshop.renderer.final job false mid.machine = (.ok final, machine) ∧
          job.template.category = record.category ∧
          (∀ image ∈ final.stored, image.field ∈ record.category.imageColumns →
            ∀ text address, request.data.get? image.field = some (.string text) →
              Reference.classify text = .embedded address →
              record.certificateData.get? image.field = some (.string image.path) ∧
                ∃ payload, Payload.ofUrl? address = some payload ∧
                  image.path = Record.Key.asset record.id image.field
                    (Store.shortDigest payload.content) payload.extension) ∧
          ∀ field, field ∉ record.category.imageColumns →
            record.certificateData.get? field = request.data.get? field) := by
  obtain ⟨document, job, mid, created, rest⟩ := generate_eq_ok answered
  obtain ⟨sameData, noPdf, sameCategory, jobData, owner, -⟩ := createRecord_eq_ok created
  rcases rest with ⟨final, machine, record, rendered, attached, rfl⟩ | ⟨fault, machine, -, -, rfl⟩
  · obtain ⟨⟨path, rfl⟩, isStored⟩ := attachFinal_eq_ok attached
    obtain ⟨sublist, come⟩ := Render.stored_final rendered
    obtain ⟨keptId, keptCategory⟩ : (recordImages document final.stored).id = document.id ∧
        (recordImages document final.stored).category = document.category :=
      recordImages_frame document
    refine ⟨_, rfl, fun _ => ⟨isStored, document, job, mid, final, machine, created, rendered,
      sameCategory.symm.trans keptCategory.symm, ?_, ?_⟩⟩
    · intro image member isColumn text address submitted embedded
      rw [Document.category_attachPdf, keptCategory] at isColumn
      have filled : text ≠ "" := by
        rintro rfl
        have noReference : Reference.classify "" = .stored "" := by decide
        exact absurd (noReference.symm.trans embedded) (by simp)
      have present : document.certificateData.contains image.field := by
        rw [sameData, Mapping.contains, submitted]
        rfl
      refine ⟨get?_recordImages document (sublist.nodup (Render.nodup_assetFields _)) member
        isColumn present, ?_⟩
      obtain ⟨payload, isPayload, path_eq⟩ := come image member
      obtain ⟨notTrusted, reaches, notTable⟩ := imageColumn_free isColumn
      rw [referenceIn_of_submitted notTrusted (sameCategory ▸ reaches) notTable
        (jobData ▸ submitted) filled] at isPayload
      rw [owner, ← keptId] at path_eq
      exact ⟨payload, Asset.ofUrl?_of_payload? isPayload embedded, path_eq⟩
    · intro field notColumn
      rw [Document.category_attachPdf, keptCategory] at notColumn
      rw [← sameData]
      exact get?_recordImages_other document (.inl notColumn)
  · exact ⟨document, rfl, fun hasPdf => absurd hasPdf (by simp [noPdf])⟩

/-! ## Phases that succeed -/

/-- The directory to which PDFs are written. -/
def Workshop.images (workshop : Workshop) : FilePath :=
  workshop.renderer.settings.assetRoots.primary.directory

theorem storing_of_eq_ok {α : Type} {action : StoreAction α} {value : α} {disk : Disk}
    (done : action state.machine.disk = (.ok value, disk)) :
    Handler.storing action state =
      (.ok value, { state with machine := { state.machine with disk } }) := by
  unfold Handler.storing
  rw [done]
  rfl

/-- The record of the first phase outlives the render. -/
theorem read_of_rendered {document : Document} {job : Job}
    (spares : workshop.renderer.capabilities.PdfSpares workshop.records workshop.images)
    (created : createRecord workshop moment request state = (.ok (document, job), mid)) :
    Store.read workshop.records (Record.Key.document document.id)
        (workshop.renderer.final job false mid.machine).2.disk =
      .ok (bytesOf document.toValue.pretty) := by
  obtain ⟨-, -, -, -, -, isStored⟩ := createRecord_eq_ok created
  have spared := Render.spared_final spares job false (fun wanted => by cases wanted) mid.machine
  exact Store.read_of_keeps spared (.record document.id) isStored

/-- A PDF is attached if its directory is there or can be made, no directory lies deeper, and
the record of the first phase is there. -/
theorem exists_attachFinal {document : Document} {final : Final} {record : Bytes}
    (roomy : Store.Roomy workshop.images)
    (opened : state.machine.disk.Open (workshop.images.join "certificates"))
    (noUp : ".." ∉ Disk.route (workshop.images.join "certificates"))
    (within : state.machine.disk.Within
      (state.machine.disk.place (workshop.images.join "certificates")).key.toList.length)
    (isStored : Store.read workshop.records (Record.Key.document document.id)
      state.machine.disk = .ok record) :
    ∃ complete after, attachFinal workshop document final state = (.ok complete, after) := by
  obtain ⟨between, saved⟩ : ∃ between, Store.saveArtifact workshop.images final.pdf document.id
      "pdf" state.machine.disk = (.ok (Record.Key.artifact document.id "pdf"), between) :=
    Store.saveArtifact_of_open document.id roomy opened noUp within
  have keeps := Store.keeps_saveArtifact workshop.images final.pdf document.id
    (by decide : '/' ∉ "pdf".toList) state.machine.disk
  rw [saved] at keeps
  have isKept := Store.read_of_keeps keeps (Store.record_apart_pdf _ _ _ _) isStored
  have replaced (content : Bytes) : ∃ after, Store.put workshop.records
      (Record.Key.document document.id) content between = (.ok (), after) := by
    rw [Record.Key.document_eq] at isKept ⊢
    exact Store.put_of_read (Record.Key.plain_document document.id) isKept
  obtain ⟨after, isReplaced⟩ := replaced (bytesOf ((recordImages document final.stored).attachPdf
    (Record.Key.artifact document.id "pdf")).toValue.pretty)
  refine ⟨(recordImages document final.stored).attachPdf (Record.Key.artifact document.id "pdf"),
    { state with machine := { state.machine with disk := after } }, ?_⟩
  refine Action.bind_eq_ok.mpr ⟨_, _, storing_of_eq_ok saved, ?_⟩
  exact Action.bind_eq_ok.mpr ⟨(), _, storing_of_eq_ok isReplaced, rfl⟩

/-- The second phase succeeds and stores every embedded image if the directory of images is
there or can be made, no directory lies deeper, the template has a source, and the backend
makes every document a PDF. -/
theorem exists_second_phase {document : Document} {job : Job} {source : String}
    {backend : Print.PdfBackend}
    (created : createRecord workshop moment request state = (.ok (document, job), mid))
    (renderable : Render.source? job.template = .ok source)
    (isBackend : workshop.renderer.capabilities.pdfBackend? = some backend)
    (prints : ∀ html pdfJob bench, ∃ pdf, backend.render html pdfJob bench = (.ok pdf, bench))
    (roomy : Store.Roomy workshop.images)
    (opened : mid.machine.disk.Open (workshop.images.join "certificates"))
    (noUp : ".." ∉ Disk.route (workshop.images.join "certificates"))
    (within : mid.machine.disk.Within
      (mid.machine.disk.place (workshop.images.join "certificates")).key.toList.length) :
    ∃ final machine record after,
      workshop.renderer.final job false mid.machine = (.ok final, machine) ∧
      attachFinal workshop document final { mid with machine } = (.ok record, after) ∧
      ∀ field ∈ job.template.category.assetFields, ∀ payload,
        Asset.payload? .final (Render.referenceIn
          (Context.normalize job.template.category job.data job.facts) field) = some payload →
        ∃ image ∈ final.stored, image.field = field := by
  obtain ⟨final, machine, rendered, disk, stored⟩ :=
    Render.exists_final renderable isBackend prints mid.machine
  have spares : workshop.renderer.capabilities.PdfSpares workshop.records workshop.images := by
    intro other otherBackend html pdfJob bench
    cases otherBackend.symm.trans isBackend
    obtain ⟨pdf, printed⟩ := prints html pdfJob bench
    rw [printed]
    exact .refl bench.disk
  have roomyStore : Store.Roomy (Asset.Resolver.storeRoot
    ⟨workshop.renderer.settings, .final, job.owner⟩) := roomy
  have known : ∀ field ∈ job.template.category.assetFields,
      field ∈ job.template.category.assetFields := fun _ => id
  -- The PDF is written on the disk that the images leave behind.
  have spared := Render.spared_final spares job false (fun wanted => by cases wanted) mid.machine
  have isStored := read_of_rendered spares created
  rw [rendered] at spared isStored
  have openedThen : machine.disk.Open (workshop.images.join "certificates") := by
    rw [disk]
    exact Render.open_resolveAll roomyStore opened known
  have withinThen : machine.disk.Within
      (machine.disk.place (workshop.images.join "certificates")).key.toList.length := by
    rw [spared.place, disk]
    exact Render.within_resolveAll within noUp (Nat.le_refl _) known
  obtain ⟨record, after, attached⟩ : ∃ record after,
      attachFinal workshop document final { mid with machine } = (.ok record, after) :=
    exists_attachFinal roomy openedThen noUp withinThen isStored
  refine ⟨final, machine, record, after, rendered, attached, fun field isAsset payload isPayload => ?_⟩
  rw [stored]
  exact Render.exists_stored_resolveAll roomyStore opened known isAsset isPayload

/-! ## A run -/

/-- A workshop with a backend that answers every document with one byte. -/
def plainWorkshop : Workshop where
  renderer :=
    ⟨{ Settings.RenderSettings.default with assetRoots := ⟨⟨⟨"m"⟩, "m"⟩, ⟨⟨"u"⟩, "u"⟩⟩ },
      ⟨some ⟨"plain", none, fun _ _ bench => (.ok [37], bench)⟩, none, none⟩⟩
  records := ⟨"r"⟩

/-- The template of a certificate that shows one letter. -/
def plainCertificate : Template :=
  { (default : Template) with category := .spaTherapist, kind := .html, htmlSource := some "x" }

/-- An empty disk, with the template remembered. -/
def plainState : ServiceState := ⟨.start .empty, ⟨⟨"r"⟩, [(.nil, plainCertificate)], none, 0⟩⟩

/-- A request with two embedded images, one of them in a field without an image
column. -/
def imagesRequest : CertificateRequest where
  template := .nil
  organization := none
  document := none
  data := .ofList
    [("candidate_name", .string "A"), ("course_name", .string "B"), ("start_date", .string "C"),
     ("end_date", .string "D"), ("passport_size_photo", .string "data:,b"),
     ("candidate_signature", .string "F"), ("certificate_background_image", .string "data:,b")]

theorem get?_passport :
    imagesRequest.data.get? "passport_size_photo" = some (.string "data:,b") := by
  simp [imagesRequest, Mapping.ofList, Mapping.insertAll]

theorem get?_background :
    imagesRequest.data.get? "certificate_background_image" = some (.string "data:,b") := by
  simp [imagesRequest, Mapping.ofList, Mapping.insertAll]

/-- A disk below whose root of images there is nothing, and no directory lies deep. -/
def isReady (disk : Disk) : Bool :=
  disk.workingDirectory == [] && disk.file? ["m"] == none &&
    disk.file? ["m", "certificates"] == none &&
    disk.entries.entries.all fun (key, entry) =>
      entry != .directory || key.toList.length ≤ "/m/certificates".toList.length

section Ready

variable {disk : Disk} (ready : isReady disk)
include ready

theorem place_of_isReady :
    disk.place (plainWorkshop.images.join "certificates") = ["m", "certificates"] := by
  simp only [isReady, Bool.and_eq_true, beq_iff_eq] at ready
  rw [Disk.place, Disk.start, ready.1.1.1]
  decide

theorem open_of_isReady : disk.Open (plainWorkshop.images.join "certificates") := by
  simp only [isReady, Bool.and_eq_true, beq_iff_eq] at ready
  obtain ⟨⟨⟨isRoot, noFile⟩, noFileBelow⟩, -⟩ := ready
  have start : disk.start (plainWorkshop.images.join "certificates") = [] := by
    rw [Disk.start, isRoot]
    decide
  have route : Disk.route (plainWorkshop.images.join "certificates") = ["m", "certificates"] := by
    decide
  refine ⟨by decide, ?_, ?_⟩
  · rw [start]
    rfl
  · rw [start, route]
    exact ⟨by decide, noFile, by decide, noFileBelow, trivial⟩

theorem within_of_isReady : disk.Within
    (disk.place (plainWorkshop.images.join "certificates")).key.toList.length := by
  rw [place_of_isReady ready]
  simp only [isReady, Bool.and_eq_true] at ready
  intro location directory
  rcases location with _ | ⟨name, names⟩
  · exact Nat.zero_le _
  · have member := mem_of_valueAt? directory
    have limit : (Location.key ["m", "certificates"]).toList.length =
        "/m/certificates".toList.length := by decide
    rw [limit]
    simpa using List.all_eq_true.mp ready.2 _ member

end Ready

/-- Whether a first phase succeeded, with the template of the certificate and on a disk that is
ready. -/
def isFirstPhase : Except ApiFault (Document × Job) × ServiceState → Bool
  | (.error _, _) => false
  | (.ok (_, job), mid) =>
      (Render.source? job.template).toOption == some "x" &&
        job.template.category == .spaTherapist && isReady mid.machine.disk

/-- The first phase of the request succeeds. -/
theorem exists_first_phase :
    ∃ document job mid, createRecord plainWorkshop default imagesRequest plainState =
        (.ok (document, job), mid) ∧
      Render.source? job.template = .ok "x" ∧ job.template.category = .spaTherapist ∧
      isReady mid.machine.disk := by
  have computed : isFirstPhase (createRecord plainWorkshop default imagesRequest plainState) := by
    decide +kernel
  rcases created : createRecord plainWorkshop default imagesRequest plainState with
    ⟨fault | ⟨document, job⟩, mid⟩
  · rw [created] at computed
    cases computed
  · simp only [created, isFirstPhase, Bool.and_eq_true, beq_iff_eq] at computed
    obtain ⟨⟨isSource, category⟩, ready⟩ := computed
    refine ⟨document, job, mid, rfl, ?_, category, ready⟩
    cases renderable : Render.source? job.template with
    | ok source =>
        rw [renderable] at isSource
        exact congrArg Except.ok (Option.some.inj isSource)
    | error fault =>
        rw [renderable] at isSource
        cases isSource

/-- Both phases of the request succeed, and the images are stored. -/
theorem exists_images_run :
    ∃ document job mid final machine record after,
      createRecord plainWorkshop default imagesRequest plainState =
        (.ok (document, job), mid) ∧
      plainWorkshop.renderer.final job false mid.machine = (.ok final, machine) ∧
      attachFinal plainWorkshop document final { mid with machine } = (.ok record, after) ∧
      (∃ image ∈ final.stored, image.field = "passport_size_photo") ∧
      ∃ image ∈ final.stored, image.field = "certificate_background_image" := by
  obtain ⟨document, job, mid, created, renderable, category, ready⟩ := exists_first_phase
  obtain ⟨-, -, -, sameData, -, -⟩ := createRecord_eq_ok created
  have isBackend : plainWorkshop.renderer.capabilities.pdfBackend? =
    some ⟨"plain", none, fun _ _ bench => (.ok [37], bench)⟩ := rfl
  obtain ⟨final, machine, record, after, rendered, attached, stored⟩ := exists_second_phase created
    renderable isBackend (fun _ _ _ => ⟨[37], rfl⟩) ⟨by decide, by decide⟩ (open_of_isReady ready)
    (by decide) (within_of_isReady ready)
  obtain ⟨payload, isPayload⟩ : ∃ payload, Asset.payload? .final "data:,b" = some payload :=
    Option.isSome_iff_exists.mp (by decide +kernel)
  have submitted {field : String} (isAsset : field ∈ Category.assetFields .spaTherapist)
      (notTrusted : field ∉ Context.trustedKeys)
      (reaches : field ∉ Category.excludedFields .spaTherapist)
      (notTable : field ∉ Context.tableKeys)
      (isData : imagesRequest.data.get? field = some (.string "data:,b")) :
      ∃ image ∈ final.stored, image.field = field := by
    rw [← category] at isAsset reaches
    refine stored field isAsset payload ?_
    rw [referenceIn_of_submitted notTrusted reaches notTable (sameData ▸ isData) (by decide)]
    exact isPayload
  exact ⟨document, job, mid, final, machine, record, after, created, rendered, attached,
    submitted (by decide) (by decide) (by decide) (by decide) get?_passport,
    submitted (by decide) (by decide) (by decide) (by decide) get?_background⟩

theorem passport_column {category : Category}
    (isAsset : "passport_size_photo" ∈ category.assetFields) :
    "passport_size_photo" ∈ category.imageColumns := by
  cases category <;> first | decide | exact absurd isAsset (by decide)

theorem background_not_column (category : Category) :
    "certificate_background_image" ∉ category.imageColumns := by
  cases category <;> decide

/-- The case of two embedded images, one of which has an image column. -/
theorem generate_images_background :
    ∃ response after, generate plainWorkshop default imagesRequest plainState =
        (.ok response, after) ∧
      ∃ record : Document, response = .ofJson 201 record.toValue ∧
        record.certificatePdf.isSome ∧
        Store.read plainWorkshop.records (Record.Key.document record.id) after.machine.disk =
          .ok (bytesOf record.toValue.pretty) ∧
        (∃ payload, Payload.ofUrl? "data:,b" = some payload ∧
          record.certificateData.get? "passport_size_photo" =
            some (.string (Record.Key.asset record.id "passport_size_photo"
              (Store.shortDigest payload.content) payload.extension))) ∧
        record.certificateData.get? "certificate_background_image" =
          some (.string "data:,b") := by
  obtain ⟨document, job, mid, final, machine, complete, after, created, rendered, attached,
    ⟨image, member, isPassport⟩, -⟩ := exists_images_run
  have answered := generate_of_phases created rendered attached
  obtain ⟨⟨path, rfl⟩, -⟩ := attachFinal_eq_ok attached
  obtain ⟨record, same, images⟩ := generate_images answered
  have samePdf := Document.certificatePdf_of_toValue (Response.ofJson_inj same)
  have hasPdf : record.certificatePdf.isSome := by
    rw [← samePdf]
    rfl
  obtain ⟨isStored, _, _, _, _, _, otherCreated, otherRendered, sameCategory, paths,
    others⟩ := images hasPdf
  -- The run behind the answer is the one that was computed.
  cases created.symm.trans otherCreated
  cases rendered.symm.trans otherRendered
  have isAsset : "passport_size_photo" ∈ record.category.assetFields := by
    rw [← sameCategory, ← isPassport]
    exact (Render.stored_final rendered).1.subset (List.mem_map_of_mem member)
  have isColumn : image.field ∈ record.category.imageColumns :=
    isPassport ▸ passport_column isAsset
  have submitted : imagesRequest.data.get? image.field = some (.string "data:,b") :=
    isPassport ▸ get?_passport
  have embedded : Reference.classify "data:,b" = .embedded "data:,b" := by decide
  obtain ⟨isPath, payload, isPayload, path_eq⟩ :=
    paths image member isColumn _ _ submitted embedded
  rw [isPassport, path_eq, isPassport] at isPath
  refine ⟨_, after, answered, record, same, hasPdf, isStored, ⟨payload, isPayload, isPath⟩, ?_⟩
  rw [others _ (background_not_column _), get?_background]

theorem head?_asset (document : Uuid) (kind digest extension : String) :
    (Record.Key.asset document kind digest extension).toList.head? = some 'c' := by
  unfold Record.Key.asset
  generalize document.text = text
  simp only [String.append_assoc]
  rw [String.toList_append, List.head?_append]
  rfl

/-- A document may keep an embedded image that its render stored. -/
theorem generate_keeps_background :
    ∃ (response : Response) (after : ServiceState) (document : Document) (job : Job)
        (mid : ServiceState) (final : Final) (machine : Print.Machine) (record : Document)
        (image : StoredImage),
      generate plainWorkshop default imagesRequest plainState = (.ok response, after) ∧
      createRecord plainWorkshop default imagesRequest plainState =
        (.ok (document, job), mid) ∧
      plainWorkshop.renderer.final job false mid.machine = (.ok final, machine) ∧
      response = .ofJson 201 record.toValue ∧ record.certificatePdf.isSome ∧
      Store.read plainWorkshop.records (Record.Key.document record.id) after.machine.disk =
        .ok (bytesOf record.toValue.pretty) ∧
      image ∈ final.stored ∧ image.field ∈ job.template.category.assetFields ∧
      imagesRequest.data.get? image.field = some (.string "data:,b") ∧
      Reference.classify "data:,b" = .embedded "data:,b" ∧
      record.certificateData.get? image.field = some (.string "data:,b") ∧
      image.path ≠ "data:,b" := by
  obtain ⟨document, job, mid, final, machine, record, after, created, rendered, attached, -,
    image, member, isField⟩ := exists_images_run
  obtain ⟨sameData, -⟩ := createRecord_eq_ok created
  obtain ⟨sublist, come⟩ := Render.stored_final rendered
  obtain ⟨payload, -, path_eq⟩ := come image member
  have isSubmitted : imagesRequest.data.get? image.field = some (.string "data:,b") := by
    rw [isField, get?_background]
  obtain ⟨⟨path, record_eq⟩, isStored⟩ := attachFinal_eq_ok attached
  have hasPdf : record.certificatePdf.isSome := by
    rw [record_eq]
    rfl
  have isKept : record.certificateData.get? image.field = some (.string "data:,b") := by
    have notColumn : image.field ∉ document.category.imageColumns := by
      rw [isField]
      exact background_not_column _
    have kept : (recordImages document final.stored).certificateData.get? image.field =
        document.certificateData.get? image.field :=
      get?_recordImages_other document (.inl notColumn)
    rw [sameData, isSubmitted] at kept
    rw [record_eq]
    exact kept
  have isNoPath : image.path ≠ "data:,b" := by
    intro same
    have start := head?_asset job.owner image.field (Store.shortDigest payload.content)
      payload.extension
    rw [← path_eq, same] at start
    exact absurd start (by decide)
  exact ⟨_, after, document, job, mid, final, machine, record, image,
    generate_of_phases created rendered attached, created, rendered, rfl, hasPdf, isStored, member,
    sublist.subset (List.mem_map_of_mem member), isSubmitted, by decide, isKept, isNoPath⟩

end CertPress.Service
