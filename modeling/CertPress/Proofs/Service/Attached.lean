import CertPress.Proofs.Record.Written
import CertPress.Proofs.Service.Frame
import CertPress.Proofs.Service.TwoPhase
import Mathlib.Data.List.Induction

/-!
# PDFs that are attached

A record that has a PDF was written together with that PDF, and the PDF stays what it was
for as long as the record does: a generation for the same document first takes the PDF out
of the record, and no other request writes either file.
-/

namespace CertPress.Service

open Disk (Keeps)
open Record (Document)
open Render (Job Final)
open Store (Spared)

/-- The state after requests, each at its moment, have been handled one after another. -/
def serve (workshop : Workshop) (table : List (Route Endpoint)) (start : ServiceState)
    (requests : List (Moment × Request)) : ServiceState :=
  requests.foldl
    (fun state (moment, request) => (handle workshop table moment request state).2) start

/-- A request is for a generation whose render gives the PDF that is attached to the
record. -/
def Attaches (workshop : Workshop) (moment : Moment) (request : Request) (state : ServiceState)
    (record : Document) (pdf : Bytes) : Prop :=
  ∃ input document job mid final machine after,
    readJson CertificateRequest.decoder request = .ok input ∧
    createRecord workshop moment input state = (.ok (document, job), mid) ∧
    workshop.renderer.final job false mid.machine = (.ok final, machine) ∧ final.pdf = pdf ∧
    attachFinal workshop document final { mid with machine } = (.ok record, after)

/-- One of the requests attached the PDF to the record. -/
def AttachedIn (workshop : Workshop) (table : List (Route Endpoint)) (start : ServiceState)
    (requests : List (Moment × Request)) (record : Document) (pdf : Bytes) : Prop :=
  ∃ earlier moment request later, requests = earlier ++ (moment, request) :: later ∧
    Attaches workshop moment request (serve workshop table start earlier) record pdf

/-- The record of a document, if it is stored, has no PDF or the one that was attached to
it. -/
def Current (workshop : Workshop) (attached : Document → Bytes → Prop) (disk : Disk) (id : Uuid) :
    Prop :=
  ∀ content, disk.file? (disk.place (workshop.records.join (Record.Key.document id))) =
      some content →
    ∃ record : Document, content = bytesOf record.toValue.pretty ∧ record.id = id ∧
      ∀ path, record.certificatePdf = some path →
        path = Record.Key.artifact id "pdf" ∧ ∃ pdf, attached record pdf ∧
          Store.read workshop.images path disk = .ok pdf

variable {workshop : Workshop} {attached more : Document → Bytes → Prop} {disk after : Disk}
variable {id : Uuid}

theorem Current.mono (current : Current workshop attached disk id)
    (weaker : ∀ record pdf, attached record pdf → more record pdf) :
    Current workshop more disk id := by
  intro content stored
  obtain ⟨record, isRecord, sameId, pdfs⟩ := current content stored
  refine ⟨record, isRecord, sameId, fun path isPath => ?_⟩
  obtain ⟨isKey, pdf, isAttached, isRead⟩ := pdfs path isPath
  exact ⟨isKey, pdf, weaker record pdf isAttached, isRead⟩

/-- What keeps the record and the PDF of a document keeps them current. -/
theorem Current.keeps {kept : Location → Prop} (current : Current workshop attached disk id)
    (keeps : Keeps kept disk after)
    (keepsRecord : kept (disk.place (workshop.records.join (Record.Key.document id))))
    (keepsPdf : kept (disk.place (workshop.images.join (Record.Key.artifact id "pdf")))) :
    Current workshop attached after id := by
  intro content stored
  rw [keeps.place, keeps.file _ keepsRecord] at stored
  obtain ⟨record, isRecord, sameId, pdfs⟩ := current content stored
  refine ⟨record, isRecord, sameId, fun path isPath => ?_⟩
  obtain ⟨rfl, pdf, isAttached, isRead⟩ := pdfs path isPath
  exact ⟨rfl, pdf, isAttached, Store.read_of_keeps keeps keepsPdf isRead⟩

theorem Current.spared (current : Current workshop attached disk id)
    (spared : Spared workshop.records workshop.images disk after) :
    Current workshop attached after id :=
  current.keeps spared (.record id) (.pdf id)

/-- A record is current once it is written together with its PDF, or without one. -/
theorem current_of_read {record : Document}
    (isStored : Store.read workshop.records (Record.Key.document record.id) disk =
      .ok (bytesOf record.toValue.pretty))
    (pdfs : ∀ path, record.certificatePdf = some path →
      path = Record.Key.artifact record.id "pdf" ∧ ∃ pdf, attached record pdf ∧
        Store.read workshop.images path disk = .ok pdf) :
    Current workshop attached disk record.id := by
  intro content stored
  obtain ⟨-, isRead⟩ := Store.read_eq_ok.mp isStored
  obtain ⟨-, isFile⟩ := Disk.read_eq_ok.mp isRead
  exact ⟨record, Option.some.inj (stored.symm.trans isFile), rfl, pdfs⟩

/-! ## One request -/

section Step

variable {moment : Moment} {input : CertificateRequest} {request : Request}
variable {state mid : ServiceState} {document : Document} {job : Job}

/-- After the render every document is current, and the generated one has no PDF. -/
theorem current_rendered
    (pdfSpares : workshop.renderer.capabilities.PdfSpares workshop.records workshop.images)
    (current : ∀ id, Current workshop attached state.machine.disk id)
    (created : createRecord workshop moment input state = (.ok (document, job), mid)) (id : Uuid) :
    Current workshop attached (workshop.renderer.final job false mid.machine).2.disk id := by
  by_cases same : id = document.id
  · subst same
    refine current_of_read (read_of_rendered pdfSpares created) ?_
    intro path isPath
    obtain ⟨-, noPdf, -⟩ := createRecord_eq_ok created
    rw [noPdf] at isPath
    cases isPath
  · obtain ⟨-, keeps⟩ := keeps_createRecord created
    have currentMid := (current id).keeps keeps
      (Store.record_apart_record same _ _) (Store.pdf_apart_record _ _ _ _)
    exact currentMid.spared
      (Render.spared_final pdfSpares job false (fun wanted => by cases wanted) mid.machine)

/-- A generation keeps every document current. -/
theorem current_generate
    (pdfSpares : workshop.renderer.capabilities.PdfSpares workshop.records workshop.images)
    (isRead : readJson CertificateRequest.decoder request = .ok input)
    (current : ∀ id, Current workshop attached state.machine.disk id) (id : Uuid) :
    Current workshop
      (fun record pdf => attached record pdf ∨ Attaches workshop moment request state record pdf)
      (generate workshop moment input state).2.machine.disk id := by
  have generated := generated_generate workshop moment input state
  generalize (generate workshop moment input state).1 = outcome at generated
  generalize (generate workshop moment input state).2 = last at generated ⊢
  cases generated with
  | refused failed =>
      refine Current.mono ?_ fun record pdf => .inl
      rcases createRecord_eq_error failed with ⟨-, same⟩ | ⟨-, keeps⟩
      · rw [same]
        exact current id
      · exact (current id).keeps keeps trivial trivial
  | unrendered created failed =>
      have rendered := current_rendered pdfSpares current created id
      rw [failed] at rendered
      exact rendered.mono fun record pdf => .inl
  | @unattached document job mid _ final machine fault created isFinal failed =>
      have rendered := current_rendered pdfSpares current created id
      have isStored := read_of_rendered pdfSpares created
      rw [isFinal] at rendered isStored
      obtain ⟨-, keeps⟩ := attachFinal_eq_error failed
      refine Current.mono ?_ fun record pdf => .inl
      by_cases same : id = document.id
      · subst same
        refine current_of_read
          (Store.read_of_keeps keeps (Store.record_apart_pdf _ _ _ _) isStored) ?_
        intro path isPath
        obtain ⟨-, noPdf, -⟩ := createRecord_eq_ok created
        rw [noPdf] at isPath
        cases isPath
      · exact rendered.keeps keeps (Store.record_apart_pdf _ _ _ _)
          (Store.pdf_apart_pdf same _ _)
  | @attached document record job mid _ final machine created isFinal done =>
      have rendered := current_rendered pdfSpares current created id
      rw [isFinal] at rendered
      obtain ⟨-, isStored⟩ := attachFinal_eq_ok done
      obtain ⟨sameId, hasPdf, isPdf, keeps⟩ := attachFinal_stores done
      by_cases same : id = document.id
      · subst same
        rw [← sameId]
        refine current_of_read isStored ?_
        intro path isPath
        cases hasPdf.symm.trans isPath
        rw [sameId]
        exact ⟨rfl, final.pdf, .inr ⟨input, document, job, mid, final, machine, last, isRead,
          created, isFinal, rfl, done⟩, isPdf⟩
      · refine Current.mono ?_ fun record pdf => .inl
        exact rendered.keeps keeps
          ⟨Store.record_apart_record same _ _, Store.record_apart_pdf _ _ _ _⟩
          ⟨Store.pdf_apart_record _ _ _ _, Store.pdf_apart_pdf same _ _⟩

end Step

/-! ## A run -/

section Run

variable {table : List (Route Endpoint)} {start : ServiceState}

theorem AttachedIn.append {requests : List (Moment × Request)} {record : Document} {pdf : Bytes}
    (attached : AttachedIn workshop table start requests record pdf)
    (more : List (Moment × Request)) :
    AttachedIn workshop table start (requests ++ more) record pdf := by
  obtain ⟨earlier, moment, request, later, rfl, attaches⟩ := attached
  exact ⟨earlier, moment, request, later ++ more, by simp, attaches⟩

/-- After any requests every document is current. -/
theorem current_serve
    (pdfSpares : workshop.renderer.capabilities.PdfSpares workshop.records workshop.images)
    (rasterSpares : workshop.renderer.capabilities.RasterSpares workshop.records workshop.images)
    (noRecords : ∀ id, start.machine.disk.file?
      (start.machine.disk.place (workshop.records.join (Record.Key.document id))) = none)
    (requests : List (Moment × Request)) (id : Uuid) :
    Current workshop (AttachedIn workshop table start requests)
      (serve workshop table start requests).machine.disk id := by
  induction requests using List.reverseRecOn generalizing id with
  | nil =>
      intro content stored
      cases (noRecords id).symm.trans stored
  | append_singleton earlier step hypothesis =>
      obtain ⟨moment, request⟩ := step
      have served : serve workshop table start (earlier ++ [(moment, request)]) =
          (handle workshop table moment request (serve workshop table start earlier)).2 := by
        simp [serve]
      rw [served]
      rcases spared_or_generates pdfSpares rasterSpares table request
          (serve workshop table start earlier) with spared | ⟨input, isRead, generates⟩
      · refine ((hypothesis id).spared spared).mono ?_
        exact fun record pdf attached => attached.append _
      · rw [generates]
        refine (current_generate pdfSpares isRead hypothesis id).mono ?_
        rintro record pdf (attached | attaches)
        · exact attached.append _
        · exact ⟨earlier, moment, request, [], rfl, attaches⟩

/-- Whatever requests are handled from a state without records, a record that has a PDF has
that of its own key, which is there and is the one that was attached to it by the request
that wrote the record. -/
theorem attached_of_loadRecord
    (pdfSpares : workshop.renderer.capabilities.PdfSpares workshop.records workshop.images)
    (rasterSpares : workshop.renderer.capabilities.RasterSpares workshop.records workshop.images)
    (noRecords : ∀ id, start.machine.disk.file?
      (start.machine.disk.place (workshop.records.join (Record.Key.document id))) = none)
    (requests : List (Moment × Request)) {record : Document} {path : String}
    (loaded : Store.loadRecord Document.decoder workshop.records (Record.Key.document id)
      (serve workshop table start requests).machine.disk = .ok record)
    (hasPdf : record.certificatePdf = some path) :
    record.id = id ∧ path = Record.Key.artifact record.id "pdf" ∧
      ∃ complete pdf, AttachedIn workshop table start requests complete pdf ∧
        Store.read workshop.records (Record.Key.document id)
            (serve workshop table start requests).machine.disk =
          .ok (bytesOf complete.toValue.pretty) ∧
        Store.read workshop.images path (serve workshop table start requests).machine.disk =
          .ok pdf := by
  have current : Current workshop (AttachedIn workshop table start requests)
      (serve workshop table start requests).machine.disk id :=
    current_serve pdfSpares rasterSpares noRecords requests id
  obtain ⟨content, isStored, isRead⟩ := Store.loadRecord_eq_ok loaded
  obtain ⟨-, isContent⟩ := Store.read_eq_ok.mp isStored
  obtain ⟨complete, isText, sameId, pdfs⟩ := current content (Disk.read_eq_ok.mp isContent).2
  rw [isText, Json.Decoder.readBytes_pretty] at isRead
  obtain ⟨isId, isPdf⟩ := Document.decoder_eq_ok isRead
  obtain ⟨isKey, pdf, attached, isThere⟩ := pdfs path (isPdf.symm.trans hasPdf)
  rw [isId, sameId]
  exact ⟨rfl, isKey, complete, pdf, attached, isText ▸ isStored, isThere⟩

/-! ## A run with a PDF -/

theorem spares_raster_plainWorkshop :
    plainWorkshop.renderer.capabilities.RasterSpares plainWorkshop.records plainWorkshop.images := by
  intro backend isBackend
  cases isBackend

theorem no_records_plainState (id : Uuid) :
    plainState.machine.disk.file?
      (plainState.machine.disk.place (plainWorkshop.records.join (Record.Key.document id))) =
        none := by
  have empty (location : Location) : Disk.file? .empty location = none := by
    cases location with
    | nil => rfl
    | cons name rest => rfl
  exact empty _

/-- The record of a certificate that was generated has its PDF. -/
theorem attached_of_loadRecord_certificate :
    ∃ table id record path,
      Store.loadRecord Document.decoder plainWorkshop.records (Record.Key.document id)
          (serve plainWorkshop table plainState [(default, submission)]).machine.disk =
        .ok record ∧
      record.certificatePdf = some path ∧ record.id = id ∧
      path = Record.Key.artifact record.id "pdf" ∧
      ∃ complete pdf,
        AttachedIn plainWorkshop table plainState [(default, submission)] complete pdf ∧
        Store.read plainWorkshop.records (Record.Key.document id)
            (serve plainWorkshop table plainState [(default, submission)]).machine.disk =
          .ok (bytesOf complete.toValue.pretty) ∧
        Store.read plainWorkshop.images path
            (serve plainWorkshop table plainState [(default, submission)]).machine.disk =
          .ok pdf := by
  obtain ⟨table, routes⟩ : ∃ table, table? plainWorkshop.renderer.settings = some table :=
    Option.isSome_iff_exists.mp (by decide +kernel)
  have isPath : submission.path = "/certificates/generate".toList := by decide
  obtain ⟨input, response, after, value, record, isRead, generated, rfl, decoded, hasPdf⟩ :=
    exists_certificate_run
  obtain ⟨path, isPdf⟩ := Option.isSome_iff_exists.mp hasPdf
  have served : serve plainWorkshop table plainState [(default, submission)] = after := by
    change (handle plainWorkshop table default submission plainState).2 = after
    rw [handle_generate routes rfl isPath, isRead]
    dsimp only
    rw [generated]
  obtain ⟨_, _, _, complete, -, same, -, stored⟩ :=
    stored_of_generate spares_plainWorkshop generated
  obtain rfl := Response.ofJson_inj same
  have loaded : Store.loadRecord Document.decoder plainWorkshop.records
      (Record.Key.document complete.id)
      (serve plainWorkshop table plainState [(default, submission)]).machine.disk =
        .ok record := by
    rw [served, stored.loads, Json.Decoder.read_text, decoded]
    rfl
  exact ⟨table, complete.id, record, path, loaded, isPdf,
    attached_of_loadRecord spares_plainWorkshop spares_raster_plainWorkshop no_records_plainState
      [(default, submission)] loaded isPdf⟩

end Run

end CertPress.Service
