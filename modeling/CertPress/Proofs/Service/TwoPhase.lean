import CertPress.Proofs.Render.Outcome
import CertPress.Proofs.Service.Phases
import CertPress.Proofs.Store.RoundTrip

/-!
# What a generation leaves behind

A request that is at fault leaves the disk as it was.  A request that is answered with a
record has stored that record, with a PDF exactly if the render succeeded, and a render
that fails does not keep the record from being stored and answered.
-/

namespace CertPress.Service

open Record (Document)
open Render (Answered Fails Job)

variable {workshop : Workshop} {moment : Moment} {input : CertificateRequest}
variable {state mid after : ServiceState} {document : Document} {job : Job}

/-- A body that cannot be read is refused with a status of its own. -/
theorem status_of_readJson {α : Type} {decoder : Json.Decoder α} {request : Request}
    {fault : ApiFault} (failed : readJson decoder request = .error fault) :
    400 ≤ fault.response.status := by
  unfold readJson at failed
  split at failed
  next =>
    split at failed
    next => cases failed
    next =>
      cases failed
      exact (by decide : 400 ≤ 400)
    next =>
      cases failed
      exact (by decide : 400 ≤ 422)
  next =>
    cases failed
    exact (by decide : 400 ≤ 415)

/-- A generation that fails through the request has written nothing. -/
theorem machine_of_generate {fault : ApiFault}
    (failed : generate workshop moment input state = (.error fault, after)) :
    400 ≤ fault.response.status ∧
      (fault.response.status < 500 → after.machine = state.machine) := by
  have generated := generated_generate workshop moment input state
  rw [failed] at generated
  have ofInternal (isInternal : fault = .internal) : 400 ≤ fault.response.status ∧
      (fault.response.status < 500 → after.machine = state.machine) := by
    subst isInternal
    exact ⟨by decide, fun small => absurd small (by decide)⟩
  cases generated with
  | refused refused =>
      rcases createRecord_eq_error refused with ⟨told, same⟩ | ⟨isInternal, -⟩
      · exact ⟨told.le_status, fun _ => same⟩
      · exact ofInternal isInternal
  | unattached _ _ unattached => exact ofInternal (attachFinal_eq_error unattached).1

/-- What a generation has stored when it answers with a record. -/
structure Stored (workshop : Workshop) (job : Job) (machine : Print.Machine) (record : Document)
    (disk : Disk) : Prop where
  /-- The record is stored as the text of the answer. -/
  isStored : Store.read workshop.records (Record.Key.document record.id) disk =
    .ok (bytesOf record.toValue.pretty)
  /-- Whoever reads the record finds what the answer tells. -/
  loads {α : Type} (decoder : Json.Decoder α) :
    Store.loadRecord decoder workshop.records (Record.Key.document record.id) disk =
      (decoder.read record.toValue.text).mapError fun _ => .malformed
  /-- There is a PDF exactly if the render succeeds. -/
  hasPdf : record.certificatePdf.isSome ↔ ¬ Fails workshop.renderer job machine
  /-- The PDF is what the backend answered. -/
  pdf : ∀ path, record.certificatePdf = some path →
    ∃ content, Answered workshop.renderer job machine (.ok content) ∧
      Store.read workshop.images path disk = .ok content

theorem stored_of_generate {response : Response}
    (spares : workshop.renderer.capabilities.PdfSpares workshop.records workshop.images)
    (answered : generate workshop moment input state = (.ok response, after)) :
    ∃ document job mid record,
      createRecord workshop moment input state = (.ok (document, job), mid) ∧
      response = .ofJson 201 record.toValue ∧ record.id = document.id ∧
      Stored workshop job mid.machine record after.machine.disk := by
  have generated := generated_generate workshop moment input state
  rw [answered] at generated
  cases generated with
  | @unrendered document job mid fault machine created failed =>
      obtain ⟨-, noPdf, -⟩ := createRecord_eq_ok created
      have isStored := read_of_rendered spares created
      rw [failed] at isStored
      refine ⟨document, job, mid, document, created, rfl, rfl, isStored,
        fun decoder => Store.loadRecord_of_read decoder isStored, ?_, ?_⟩
      · simpa [noPdf] using Render.fails_of_final failed
      · intro path isPath
        rw [noPdf] at isPath
        cases isPath
  | @attached document record job mid _ final machine created rendered attached =>
      obtain ⟨-, isStored⟩ := attachFinal_eq_ok attached
      obtain ⟨sameId, isPdf, isRead, -⟩ := attachFinal_stores attached
      refine ⟨document, job, mid, record, created, rfl, sameId, isStored,
        fun decoder => Store.loadRecord_of_read decoder isStored, ?_, ?_⟩
      · simpa [isPdf] using Render.not_fails_of_final rendered
      · intro path isPath
        rw [isPdf] at isPath
        cases isPath
        exact ⟨final.pdf, Render.answered_of_final rendered, isRead⟩

theorem generate_of_fails
    (spares : workshop.renderer.capabilities.PdfSpares workshop.records workshop.images)
    (created : createRecord workshop moment input state = (.ok (document, job), mid))
    (fails : Fails workshop.renderer job mid.machine) :
    ∃ after, generate workshop moment input state = (.ok (.ofJson 201 document.toValue), after) ∧
      document.certificatePdf = none ∧
      Store.read workshop.records (Record.Key.document document.id) after.machine.disk =
        .ok (bytesOf document.toValue.pretty) := by
  obtain ⟨fault, machine, failed⟩ := Render.final_eq_error_iff.mpr fails
  obtain ⟨-, noPdf, -⟩ := createRecord_eq_ok created
  have isStored := read_of_rendered spares created
  rw [failed] at isStored
  have rendered : Handler.rendering (workshop.renderer.final job false) mid =
      (.ok (.error fault), { mid with machine }) := by
    unfold Handler.rendering
    rw [failed]
  refine ⟨{ mid with machine }, ?_, noPdf, isStored⟩
  refine Action.bind_eq_ok.mpr ⟨(document, job), mid, created, ?_⟩
  exact Action.bind_eq_ok.mpr ⟨.error fault, _, rendered, Action.pure_eq_ok.mpr ⟨rfl, rfl⟩⟩

/-- A request for a generation that is at fault has changed no file; one that is answered
with a record has stored it, with the PDF that the backend answered unless the render
failed; and a render that fails takes nothing but the PDF from the answer. -/
theorem handle_two_phases {table : List (Route Endpoint)} {request : Request}
    {response : Response}
    (routes : table? workshop.renderer.settings = some table) (isPost : request.method = "POST")
    (isPath : request.path = "/certificates/generate".toList)
    (spares : workshop.renderer.capabilities.PdfSpares workshop.records workshop.images)
    (answered : handle workshop table moment request state = (response, after)) :
    (400 ≤ response.status → response.status < 500 →
        after.machine.disk = state.machine.disk) ∧
      (response.status = 201 → ∃ input document job mid record,
        readJson CertificateRequest.decoder request = .ok input ∧
        createRecord workshop moment input state = (.ok (document, job), mid) ∧
        response = .ofJson 201 record.toValue ∧ record.id = document.id ∧
        Stored workshop job mid.machine record after.machine.disk) ∧
      ∀ input document job mid, readJson CertificateRequest.decoder request = .ok input →
        createRecord workshop moment input state = (.ok (document, job), mid) →
        Fails workshop.renderer job mid.machine →
        response = .ofJson 201 document.toValue ∧ document.certificatePdf = none ∧
          Store.read workshop.records (Record.Key.document document.id) after.machine.disk =
            .ok (bytesOf document.toValue.pretty) := by
  rw [handle_generate routes isPost isPath] at answered
  cases isRead : readJson CertificateRequest.decoder request with
  | error fault =>
      rw [isRead] at answered
      obtain ⟨rfl, rfl⟩ := Prod.mk.inj answered
      refine ⟨fun _ _ => rfl, fun created => ?_, ?_⟩
      · have bound := status_of_readJson isRead
        omega
      · rintro input document job mid ⟨⟩
  | ok input =>
      rw [isRead] at answered
      dsimp only at answered
      have onFailure {document : Document} {job : Job} {mid : ServiceState}
          (created : createRecord workshop moment input state = (.ok (document, job), mid))
          (fails : Fails workshop.renderer job mid.machine) :
          response = .ofJson 201 document.toValue ∧ document.certificatePdf = none ∧
            Store.read workshop.records (Record.Key.document document.id) after.machine.disk =
              .ok (bytesOf document.toValue.pretty) := by
        obtain ⟨last, generated, noPdf, isStored⟩ := generate_of_fails spares created fails
        rw [generated] at answered
        obtain ⟨rfl, rfl⟩ := Prod.mk.inj answered
        exact ⟨rfl, noPdf, isStored⟩
      rcases generated : generate workshop moment input state with ⟨fault | answer, last⟩
      · rw [generated] at answered
        obtain ⟨rfl, rfl⟩ := Prod.mk.inj answered
        obtain ⟨bound, kept⟩ := machine_of_generate generated
        refine ⟨fun _ small => congrArg Print.Machine.disk (kept small), ?_, ?_⟩
        · intro created
          omega
        · rintro _ document job mid ⟨⟩ created fails
          exact onFailure created fails
      · rw [generated] at answered
        obtain ⟨rfl, rfl⟩ := Prod.mk.inj answered
        obtain ⟨document, job, mid, record, created, rfl, sameId, stored⟩ :=
          stored_of_generate spares generated
        refine ⟨fun bound => absurd bound (by decide : ¬ 400 ≤ 201), ?_, ?_⟩
        · intro _
          exact ⟨input, document, job, mid, record, rfl, created, rfl, sameId, stored⟩
        · rintro _ document job mid ⟨⟩ created fails
          exact onFailure created fails

/-! ## A run -/

/-- The body of a request for a certificate. -/
def certificateBody : Json.Value :=
  .object
    [("template_id", .string Uuid.nil.text),
     ("certificate_data", .ofObject (.ofList
        [("candidate_name", .string "A"), ("course_name", .string "B"),
         ("start_date", .string "C"), ("end_date", .string "D"),
         ("passport_size_photo", .string "E"), ("candidate_signature", .string "F")]))]

/-- A request that submits the body. -/
def submission : Request where
  method := "POST"
  address := "/certificates/generate"
  contentType := some "application/json"
  body := bytesOf certificateBody.pretty

theorem readJson_of_pretty {α : Type} {decoder : Json.Decoder α} {request : Request} {input : α}
    {value : Json.Value} (isJson : (request.contentType.map Text.isJson).getD false = true)
    (isBody : request.body = bytesOf value.pretty)
    (isRead : decoder Json.depthLimit (Json.Raw.ofValue value) = .ok input) :
    readJson decoder request = .ok input := by
  rw [readJson, if_pos isJson, isBody, Json.Decoder.readBytes_pretty, isRead]

theorem spares_plainWorkshop :
    plainWorkshop.renderer.capabilities.PdfSpares plainWorkshop.records plainWorkshop.images := by
  intro backend isBackend html job bench
  cases isBackend
  exact .refl bench.disk

/-- Whether a response is a new record with a PDF. -/
def Response.hasPdf : Response → Bool
  | ⟨201, none, .json value⟩ =>
      ((Document.decoder Json.depthLimit (Json.Raw.ofValue value)).toOption.bind
        Document.certificatePdf).isSome
  | _ => false

/-- Whether a submitted body is answered with a new record that has a PDF. -/
def isAnswered (body : Json.Value) : Bool :=
  match CertificateRequest.decoder Json.depthLimit (Json.Raw.ofValue body) with
  | .error _ => false
  | .ok input => (generate plainWorkshop default input plainState).1.toOption.any Response.hasPdf

theorem Response.exists_of_hasPdf {response : Response} (holds : response.hasPdf) :
    ∃ value record, response = .ofJson 201 value ∧
      Document.decoder Json.depthLimit (Json.Raw.ofValue value) = .ok record ∧
      record.certificatePdf.isSome := by
  unfold Response.hasPdf at holds
  split at holds
  next value =>
    cases decoded : Document.decoder Json.depthLimit (Json.Raw.ofValue value) with
    | ok record =>
        rw [decoded] at holds
        exact ⟨value, record, rfl, decoded, holds⟩
    | error fault =>
        rw [decoded] at holds
        cases holds
  next => cases holds

/-- The request is answered with a record that has a PDF. -/
theorem exists_certificate_run :
    ∃ input response after value record,
      readJson CertificateRequest.decoder submission = .ok input ∧
      generate plainWorkshop default input plainState = (.ok response, after) ∧
      response = .ofJson 201 value ∧
      Document.decoder Json.depthLimit (Json.Raw.ofValue value) = .ok record ∧
      record.certificatePdf.isSome := by
  have computed : isAnswered certificateBody := by decide +kernel
  unfold isAnswered at computed
  split at computed
  next => cases computed
  next input isRead =>
    have isJson : (submission.contentType.map Text.isJson).getD false = true := by decide
    have isBody : submission.body = bytesOf certificateBody.pretty := by simp only [submission]
    rcases generated : generate plainWorkshop default input plainState with
      ⟨fault | response, after⟩
    · rw [generated] at computed
      cases computed
    · rw [generated] at computed
      obtain ⟨value, record, isResponse, decoded, hasPdf⟩ := Response.exists_of_hasPdf computed
      exact ⟨input, response, after, value, record, readJson_of_pretty isJson isBody isRead,
        generated, isResponse, decoded, hasPdf⟩

/-- A certificate is generated with its PDF. -/
theorem handle_two_phases_certificate :
    ∃ table response after, table? plainWorkshop.renderer.settings = some table ∧
      handle plainWorkshop table default submission plainState = (response, after) ∧
      response.status = 201 ∧
      ∃ input document job mid record,
        readJson CertificateRequest.decoder submission = .ok input ∧
        createRecord plainWorkshop default input plainState = (.ok (document, job), mid) ∧
        response = .ofJson 201 record.toValue ∧ record.id = document.id ∧
        Stored plainWorkshop job mid.machine record after.machine.disk := by
  obtain ⟨table, routes⟩ : ∃ table, table? plainWorkshop.renderer.settings = some table :=
    Option.isSome_iff_exists.mp (by decide +kernel)
  have isPath : submission.path = "/certificates/generate".toList := by decide
  obtain ⟨input, response, after, value, -, isRead, generated, rfl, -⟩ := exists_certificate_run
  have answered : handle plainWorkshop table default submission plainState =
      (.ofJson 201 value, after) := by
    rw [handle_generate routes rfl isPath, isRead]
    dsimp only
    rw [generated]
  obtain ⟨-, stored, -⟩ := handle_two_phases routes rfl isPath spares_plainWorkshop answered
  exact ⟨table, _, after, routes, answered, rfl, stored rfl⟩

end CertPress.Service
