import CertPress.Proofs.Render.Frame
import CertPress.Proofs.Service.Generate
import CertPress.Proofs.Service.Route

/-!
# The phases of a generation

The first phase writes the record of the document and nothing else, and the second one
its PDF and its record.  What keeps a phase from writing is told by an answer: the disk is
as it was if the request is at fault, and a write that fails is an internal failure.
-/

namespace CertPress.Service

open Disk (Keeps)
open Record (Document Key.documentName Key.artifactName)
open Render (Final Job)

/-! ## Faults -/

/-- The fault is answered with a message. -/
def ApiFault.Told (fault : ApiFault) : Prop := ∀ status, fault ≠ .unreadable status

namespace ApiFault

theorem Told.le_status {fault : ApiFault} (told : fault.Told) : 400 ≤ fault.response.status := by
  cases fault with
  | notFound message => exact (by decide : 400 ≤ 404)
  | unprocessable message => exact (by decide : 400 ≤ 422)
  | unavailable message => exact (by decide : 400 ≤ 503)
  | internal => exact (by decide : 400 ≤ 500)
  | unreadable status => exact absurd rfl (told status)

theorem told_ofStore (fault : StoreFault) : (ofStore fault).Told := by
  intro status
  cases fault <;> exact ApiFault.noConfusion

theorem told_ofExport (fault : ExportFault) : (ofExport fault).Told := by
  intro status
  cases fault with
  | storage inner => exact told_ofStore inner status
  | configuration => exact ApiFault.noConfusion
  | content => exact ApiFault.noConfusion
  | render => exact ApiFault.noConfusion
  | templateNotFound => exact ApiFault.noConfusion
  | worker => exact ApiFault.noConfusion

theorem ofStore_eq_internal {fault : StoreFault} (other : ∀ missing, fault ≠ .notFound missing) :
    ofStore fault = .internal := by
  cases fault with
  | notFound missing => exact absurd rfl (other missing)
  | invalidKey => rfl
  | disk => rfl
  | malformed => rfl

end ApiFault

theorem told_of_loadOrganization {records : FilePath} {category : Record.Category}
    {organization : Option Uuid} {disk : Disk} {fault : ApiFault}
    (failed : loadOrganization records category organization disk = .error fault) :
    fault.Told := by
  unfold loadOrganization at failed
  split at failed
  next => cases failed
  next =>
    split at failed
    next => cases failed
    next =>
      cases failed
      exact fun _ => ApiFault.noConfusion
    next inner _ _ =>
      cases failed
      exact ApiFault.told_ofStore inner

namespace Handler

variable {α : Type} {state after : ServiceState} {fault : ApiFault}

theorem cached_eq_error
    {ask : Render.TemplateCache → Disk → Except ExportFault α × Render.TemplateCache}
    (failed : cached ask state = (.error fault, after)) :
    fault.Told ∧ after.machine = state.machine := by
  unfold cached at failed
  rcases outcome : ask state.cache state.machine.disk with ⟨inner | value, cache⟩
  · rw [outcome] at failed
    cases failed
    exact ⟨ApiFault.told_ofExport inner, rfl⟩
  · rw [outcome] at failed
    cases failed

theorem cached_eq_ok {value : α}
    {ask : Render.TemplateCache → Disk → Except ExportFault α × Render.TemplateCache}
    (done : cached ask state = (.ok value, after)) : after.machine = state.machine := by
  obtain rfl := congrArg Prod.snd done
  rfl

theorem reading_eq_error {read : Disk → Except ApiFault α}
    (failed : reading read state = (.error fault, after)) :
    read state.machine.disk = .error fault ∧ after = state := by
  obtain ⟨isFault, rfl⟩ := Prod.mk.inj failed
  exact ⟨isFault, rfl⟩

theorem reading_eq_ok {read : Disk → Except ApiFault α} {value : α}
    (done : reading read state = (.ok value, after)) : after = state :=
  (congrArg Prod.snd done).symm

theorem storing_eq_error {action : StoreAction α}
    (failed : storing action state = (.error fault, after)) :
    ∃ inner disk, action state.machine.disk = (.error inner, disk) ∧
      fault = .ofStore inner ∧ after.machine.disk = disk := by
  unfold storing at failed
  rcases outcome : action state.machine.disk with ⟨inner | value, disk⟩
  · rw [outcome] at failed
    cases failed
    exact ⟨inner, disk, rfl, rfl, rfl⟩
  · rw [outcome] at failed
    cases failed

end Handler

/-! ## The first phase -/

section Phases

variable {workshop : Workshop} {moment : Moment} {request : CertificateRequest}
variable {state mid after : ServiceState} {fault : ApiFault}

/-- A request that the first phase refuses leaves the disk as it was, and otherwise it was
the record that could not be written. -/
theorem createRecord_eq_error
    (failed : createRecord workshop moment request state = (.error fault, after)) :
    (fault.Told ∧ after.machine = state.machine) ∨
      fault = .internal ∧ Keeps (fun _ => True) state.machine.disk after.machine.disk := by
  unfold createRecord at failed
  rcases Action.bind_eq_error.mp failed with unknown | ⟨template, first, found, onTemplate⟩
  · exact .inl (Handler.cached_eq_error unknown)
  have sameFirst := Handler.cached_eq_ok found
  rcases Action.bind_eq_error.mp onTemplate with refused | ⟨document, second, made, onDocument⟩
  · obtain ⟨isFault, rfl⟩ := Action.lift_eq_error.mp refused
    refine .inl ⟨?_, sameFirst⟩
    obtain ⟨inner, -, rfl⟩ := Action.mapError_eq_error.mp isFault
    exact fun _ => ApiFault.noConfusion
  obtain ⟨-, rfl⟩ := Action.lift_eq_ok.mp made
  rcases Action.bind_eq_error.mp onDocument with missing | ⟨organization, third, loaded, saving⟩
  · obtain ⟨isFault, rfl⟩ := Handler.reading_eq_error missing
    exact .inl ⟨told_of_loadOrganization isFault, sameFirst⟩
  obtain rfl := Handler.reading_eq_ok loaded
  rcases Action.bind_eq_error.mp saving with unsaved | ⟨_, fourth, -, last⟩
  · obtain ⟨inner, disk, isFault, rfl, isDisk⟩ := Handler.storing_eq_error unsaved
    obtain ⟨keeps, other⟩ := Store.put_eq_error isFault
    rw [sameFirst] at keeps
    exact .inr ⟨ApiFault.ofStore_eq_internal other, isDisk ▸ keeps⟩
  · cases last

/-- The first phase writes the record of the document that it makes. -/
theorem put_of_createRecord {document : Document} {job : Job}
    (created : createRecord workshop moment request state = (.ok (document, job), mid)) :
    document.id = request.document.getD moment.freshId ∧
      Store.saveRecord workshop.records (Record.Key.document document.id) document.toValue
        state.machine.disk = (.ok (), mid.machine.disk) := by
  unfold createRecord at created
  obtain ⟨template, first, found, rest⟩ := Action.bind_eq_ok.mp created
  obtain ⟨made, second, isMade, rest⟩ := Action.bind_eq_ok.mp rest
  obtain ⟨organization, third, loaded, rest⟩ := Action.bind_eq_ok.mp rest
  obtain ⟨_, fourth, saved, last⟩ := Action.bind_eq_ok.mp rest
  obtain ⟨same, rfl⟩ := Action.pure_eq_ok.mp last
  cases same
  obtain ⟨isDocument, rfl⟩ := Action.lift_eq_ok.mp isMade
  obtain rfl := Handler.reading_eq_ok loaded
  obtain ⟨sameId, -⟩ := Document.create_eq_ok (Action.mapError_eq_ok.mp isDocument)
  obtain ⟨disk, put, rfl⟩ := Handler.storing_eq_ok saved
  rw [Handler.cached_eq_ok found] at put
  exact ⟨sameId, put⟩

theorem keeps_createRecord {document : Document} {job : Job}
    (created : createRecord workshop moment request state = (.ok (document, job), mid)) :
    document.id = request.document.getD moment.freshId ∧
      Keeps (Location.Apart (Key.documentName document.id)) state.machine.disk
        mid.machine.disk := by
  obtain ⟨sameId, put⟩ := put_of_createRecord created
  have keeps := Store.keeps_saveRecord workshop.records document.id document.toValue
    state.machine.disk
  rw [put] at keeps
  exact ⟨sameId, keeps⟩

/-! ## The second phase -/

variable {document complete : Document} {final : Final}

/-- The second phase fails only for want of writing, and then the record is as it was. -/
theorem attachFinal_eq_error
    (failed : attachFinal workshop document final state = (.error fault, after)) :
    fault = .internal ∧ Keeps (Location.Apart (Key.artifactName document.id "pdf"))
      state.machine.disk after.machine.disk := by
  unfold attachFinal at failed
  rcases Action.bind_eq_error.mp failed with unstored | ⟨path, first, stored, attaching⟩
  · obtain ⟨inner, disk, isFault, rfl, rfl⟩ := Handler.storing_eq_error unstored
    obtain ⟨keeps, other⟩ := Store.saveArtifact_eq_error isFault
    exact ⟨ApiFault.ofStore_eq_internal other, keeps.mono fun _ _ => trivial⟩
  rcases Action.bind_eq_error.mp attaching with unsaved | ⟨_, second, -, last⟩
  · obtain ⟨inner, disk, isFault, rfl, rfl⟩ := Handler.storing_eq_error unsaved
    obtain ⟨between, saved, rfl⟩ := Handler.storing_eq_ok stored
    obtain ⟨keeps, other⟩ := Store.put_eq_error isFault
    have free : '/' ∉ Record.ArtifactFormat.pdf.extension.toList := by decide
    have keepsPdf := Store.keeps_saveArtifact workshop.images final.pdf document.id free
      state.machine.disk
    rw [Workshop.images, saved] at keepsPdf
    exact ⟨ApiFault.ofStore_eq_internal other, keepsPdf.trans (keeps.mono fun _ _ => trivial)⟩
  · cases last

/-- The second phase writes the PDF of the document and its record. -/
theorem attachFinal_stores
    (attached : attachFinal workshop document final state = (.ok complete, after)) :
    complete.id = document.id ∧
      complete.certificatePdf = some (Record.Key.artifact document.id "pdf") ∧
      Store.read workshop.images (Record.Key.artifact document.id "pdf") after.machine.disk =
        .ok final.pdf ∧
      Keeps (fun location => location.Apart (Key.documentName document.id) ∧
          location.Apart (Key.artifactName document.id "pdf"))
        state.machine.disk after.machine.disk := by
  unfold attachFinal at attached
  obtain ⟨path, first, stored, rest⟩ := Action.bind_eq_ok.mp attached
  obtain ⟨_, second, saved, last⟩ := Action.bind_eq_ok.mp rest
  obtain ⟨rfl, rfl⟩ := Action.pure_eq_ok.mp last
  obtain ⟨between, isStored, rfl⟩ := Handler.storing_eq_ok stored
  obtain ⟨disk, isSaved, rfl⟩ := Handler.storing_eq_ok saved
  obtain ⟨rfl, isRead⟩ := Store.saveArtifact_eq_ok isStored
  have free : '/' ∉ Record.ArtifactFormat.pdf.extension.toList := by decide
  have keepsPdf := Store.keeps_saveArtifact workshop.images final.pdf document.id free
    state.machine.disk
  rw [Workshop.images, isStored] at keepsPdf
  have keepsRecord := Store.keeps_saveRecord workshop.records document.id
    ((recordImages document final.stored).attachPdf
      (Record.Key.artifact document.id Record.ArtifactFormat.pdf.extension)).toValue between
  rw [isSaved] at keepsRecord
  refine ⟨(recordImages_frame document).1, rfl, ?_, ?_⟩
  · exact Store.read_of_keeps keepsRecord (Store.pdf_apart_record _ _ _ _) isRead
  · exact (keepsPdf.mono fun _ apart => apart.2).trans (keepsRecord.mono fun _ apart => apart.1)

/-! ## Both phases -/

variable (workshop moment request state)

/-- How a generation ends, and with which state. -/
inductive Generated : Except ApiFault Response → ServiceState → Prop where
  /-- No record was stored. -/
  | refused {fault : ApiFault} {after : ServiceState} :
      createRecord workshop moment request state = (.error fault, after) →
      Generated (.error fault) after
  /-- The record stays as the first phase stored it. -/
  | unrendered {document : Document} {job : Job} {mid : ServiceState} {fault : ExportFault}
      {machine : Print.Machine} :
      createRecord workshop moment request state = (.ok (document, job), mid) →
      workshop.renderer.final job false mid.machine = (.error fault, machine) →
      Generated (.ok (.ofJson 201 document.toValue)) { mid with machine }
  /-- The PDF or the record with it could not be written. -/
  | unattached {document : Document} {job : Job} {mid after : ServiceState} {final : Final}
      {machine : Print.Machine} {fault : ApiFault} :
      createRecord workshop moment request state = (.ok (document, job), mid) →
      workshop.renderer.final job false mid.machine = (.ok final, machine) →
      attachFinal workshop document final { mid with machine } = (.error fault, after) →
      Generated (.error fault) after
  /-- The record has its PDF. -/
  | attached {document record : Document} {job : Job} {mid after : ServiceState} {final : Final}
      {machine : Print.Machine} :
      createRecord workshop moment request state = (.ok (document, job), mid) →
      workshop.renderer.final job false mid.machine = (.ok final, machine) →
      attachFinal workshop document final { mid with machine } = (.ok record, after) →
      Generated (.ok (.ofJson 201 record.toValue)) after

theorem generated_generate :
    Generated workshop moment request state (generate workshop moment request state).1
      (generate workshop moment request state).2 := by
  rcases outcome : generate workshop moment request state with ⟨fault | response, after⟩
  · unfold generate at outcome
    rcases Action.bind_eq_error.mp outcome with failed | ⟨⟨document, job⟩, mid, created, rest⟩
    · exact .refused failed
    rcases Action.bind_eq_error.mp rest with failed | ⟨result, between, rendered, onResult⟩
    · cases failed
    obtain ⟨machine, isRendered, rfl⟩ := Handler.rendering_eq_ok rendered
    cases result with
    | error fault => cases onResult
    | ok final =>
        rcases Action.bind_eq_error.mp onResult with failed | ⟨record, last, -, done⟩
        · exact .unattached created isRendered failed
        · cases done
  · obtain ⟨document, job, mid, created, rest⟩ := generate_eq_ok outcome
    rcases rest with ⟨final, machine, record, rendered, attached, rfl⟩ |
      ⟨fault, machine, rendered, rfl, rfl⟩
    · exact .attached created rendered attached
    · exact .unrendered created rendered

end Phases

/-! ## Requests for a document -/

section Requests

variable {workshop : Workshop} {table : List (Route Endpoint)} {request : Request}
variable {moment : Moment} {state : ServiceState}
variable (routes : table? workshop.renderer.settings = some table)
variable (isPost : request.method = "POST")
include routes isPost

/-- A request to one of the service's own paths is answered by the action of that path if its
body can be read. -/
theorem handle_post {path : String} {endpoint : Endpoint}
    {action : CertificateRequest → Handler Response}
    (own : ⟨Route.literals path, endpoint⟩ ∈ ownRoutes) (isPath : request.path = path.toList)
    (answers : answerAt workshop moment endpoint [] request =
      liftM (readJson CertificateRequest.decoder request) >>= action) :
    handle workshop table moment request state =
      match readJson CertificateRequest.decoder request with
      | .error fault => (fault.response, state)
      | .ok input =>
          match action input state with
          | (.ok response, after) => (response, after)
          | (.error fault, after) => (fault.response, after) := by
  unfold handle
  rw [isPost, if_neg (by decide), isPath, find?_own routes own]
  dsimp only
  rw [answers]
  cases readJson CertificateRequest.decoder request with
  | error fault => rfl
  | ok input =>
      change (match action input state with
        | (.ok response, after) => (response, after)
        | (.error fault, after) =>
            (if "POST" = "HEAD" then fault.response.headOnly else fault.response, after)) = _
      rfl

/-- The answer to a request for a generation comes from its two phases if its body can be
read. -/
theorem handle_generate (isPath : request.path = "/certificates/generate".toList) :
    handle workshop table moment request state =
      match readJson CertificateRequest.decoder request with
      | .error fault => (fault.response, state)
      | .ok input =>
          match generate workshop moment input state with
          | (.ok response, after) => (response, after)
          | (.error fault, after) => (fault.response, after) := by
  refine handle_post routes isPost (List.mem_of_getLast? rfl) isPath ?_
  simp only [answerAt, isPost, answerPost]

end Requests

end CertPress.Service
