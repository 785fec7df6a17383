import CertPress.Proofs.Json.Written
import CertPress.Proofs.Record.Columns
import CertPress.Proofs.Time.Timestamp
import CertPress.Proofs.Uuid
import CertPress.Record.Document

/-!
# Records that are read back

Templates, organizations and documents are read back from the values that they are written
as.  Their moments must lie in the years that have four digits, and their free-form objects
may hold no doubles and may not be nested more deeply than a reader goes.
-/

namespace CertPress

namespace Json.Decoder

variable {depth : Nat}

@[simp] theorem uuid_ofValue (id : Uuid) : uuid depth (Raw.ofValue (.string id.text)) = .ok id :=
  textOfForm_ofValue depth id.ofString?_text

@[simp] theorem optional_uuid (id : Option Uuid) :
    uuid.optional depth (Raw.ofValue (.ofText? (id.map Uuid.text))) = .ok id :=
  optional_textOfForm Uuid.ofString?_text id

@[simp] theorem timestamp_ofValue {moment : Time.Timestamp} (written : moment.Written) :
    timestamp depth (Raw.ofValue (.string moment.text)) = .ok moment :=
  textOfForm_ofValue depth (Time.Timestamp.ofString?_text written)

end Json.Decoder

namespace Record

open Json (Value Object Decoder Fields Raw)

variable {depth : Nat}

@[simp] theorem Category.decoder_ofValue (category : Category) :
    decoder depth (Raw.ofValue (.string category.tag)) = .ok category :=
  Decoder.name_ofValue category.ofTag?_tag

@[simp] theorem TemplateKind.decoder_ofValue (kind : TemplateKind) :
    decoder depth (Raw.ofValue (.string kind.tag)) = .ok kind := by
  refine Decoder.name_ofValue ?_
  cases kind <;> decide

/-- The levels that a free-form object of a record may have: a reader enters the record
first. -/
def objectLevels : Nat := Json.depthLimit - 2

/-! ## Organizations -/

theorem Organization.decoder_toValue (organization : Organization) (deep : 1 < depth) :
    decoder depth (Raw.ofValue organization.toValue) = .ok organization := by
  obtain ⟨found, isFound, -, isThere⟩ := Fields.exists_ofRaw
    (rfl : organization.toValue = .object _) deep (by decide : (fields.map (·.1)).Nodup)
    (by simp [fields])
  simp only [List.forall_mem_cons] at isThere
  simp [decoder, isFound, Fields.required, Fields.withDefault, Fields.get?, isThere, bind,
    Except.bind]
  rfl

/-! ## Templates -/

/-- A template whose record can be read back. -/
structure Template.Written (template : Template) : Prop where
  config : (Value.ofObject template.config).Exact objectLevels
  createdAt : template.createdAt.Written
  updatedAt : template.updatedAt.Written

theorem Template.decoder_toValue {template : Template} (written : template.Written) :
    decoder Json.depthLimit (Raw.ofValue template.toValue) = .ok template := by
  obtain ⟨config, createdAt, updatedAt⟩ := written
  have isConfig : Decoder.object (Json.depthLimit - 1) (Raw.ofValue (.ofObject template.config)) =
      .ok template.config :=
    Decoder.object_ofObject config (by decide)
  obtain ⟨found, isFound, isDepth, isThere⟩ := Fields.exists_ofRaw
    (rfl : template.toValue = .object _) (by decide : 1 < Json.depthLimit)
    (by decide : (fields.map (·.1)).Nodup) (by simp [fields, isConfig, createdAt, updatedAt])
  simp only [List.forall_mem_cons] at isThere
  simp [decoder, isFound, Fields.required, Fields.withDefault, Fields.get?, isThere, isDepth,
    isConfig, createdAt, updatedAt, bind, Except.bind]
  rfl

/-! ## Documents -/

/-- A document whose record can be read back. -/
structure Document.Written (document : Document) : Prop where
  certificateData : (Value.ofObject document.certificateData).Exact objectLevels
  generatedAt : document.generatedAt.Written

theorem Document.decoder_toValue {document : Document} (written : document.Written) :
    decoder Json.depthLimit (Raw.ofValue document.toValue) = .ok document := by
  obtain ⟨certificateData, generatedAt⟩ := written
  have isData : Decoder.object (Json.depthLimit - 1)
      (Raw.ofValue (.ofObject document.certificateData)) = .ok document.certificateData :=
    Decoder.object_ofObject certificateData (by decide)
  have isDetails : DocumentDetails.decoder (Json.depthLimit - 1)
      (Raw.ofValue document.details.toValue) = .ok document.details :=
    document.details.decoder_toValue (by decide)
  obtain ⟨found, isFound, isDepth, isThere⟩ := Fields.exists_ofRaw
    (rfl : document.toValue = .object _) (by decide : 1 < Json.depthLimit)
    (by decide : (fields.map (·.1)).Nodup) (by simp [fields, isData, isDetails, generatedAt])
  simp only [List.forall_mem_cons] at isThere
  simp [decoder, isFound, Fields.required, Fields.nullable, Fields.get?, isThere, isDepth,
    isData, isDetails, generatedAt, bind, Except.bind]
  rfl

/-- What is read from the record of a document has its identifier and its PDF, also where the
record cannot be read back as a whole. -/
theorem Document.decoder_eq_ok {depth : Nat} {document record : Document}
    (isRead : decoder depth (Raw.ofValue document.toValue) = .ok record) :
    record.id = document.id ∧ record.certificatePdf = document.certificatePdf := by
  unfold decoder at isRead
  obtain ⟨found, isFound, isRead⟩ := Action.except_bind_eq_ok.mp isRead
  have hasId : valueAt? "id" found.found = some (Raw.ofValue (.string document.id.text)) :=
    Fields.valueAt?_ofRaw isFound (by decide) (.head _)
  have hasPdf : valueAt? "certificate_pdf" found.found =
      some (Raw.ofValue (.ofText? document.certificatePdf)) :=
    Fields.valueAt?_ofRaw isFound (by decide) (by simp)
  obtain ⟨id, isId, isRead⟩ := Action.except_bind_eq_ok.mp isRead
  obtain ⟨templateId, -, isRead⟩ := Action.except_bind_eq_ok.mp isRead
  obtain ⟨organizationId, -, isRead⟩ := Action.except_bind_eq_ok.mp isRead
  obtain ⟨createdBy, -, isRead⟩ := Action.except_bind_eq_ok.mp isRead
  obtain ⟨certificateData, -, isRead⟩ := Action.except_bind_eq_ok.mp isRead
  obtain ⟨certificatePdf, isPdf, isRead⟩ := Action.except_bind_eq_ok.mp isRead
  obtain ⟨isPublic, -, isRead⟩ := Action.except_bind_eq_ok.mp isRead
  obtain ⟨generatedAt, -, isRead⟩ := Action.except_bind_eq_ok.mp isRead
  obtain ⟨details, -, isRead⟩ := Action.except_bind_eq_ok.mp isRead
  cases isRead
  rw [Fields.required_eq hasId, Decoder.uuid, Decoder.textOfForm_ofValue _ document.id.ofString?_text]
    at isId
  rw [Fields.nullable_eq hasPdf, Decoder.optional_ofText?] at isPdf
  exact ⟨(Except.ok.inj isId).symm, (Except.ok.inj isPdf).symm⟩

end Record

end CertPress
