import CertPress.Proofs.Keys
import CertPress.Record.Document

/-!
# Documents and their images

A new document holds the payload as it was submitted.  The details of some
categories have columns for images.  The path of a stored image is recorded for a
field that is such a column, and takes the place of what was submitted for it; a
document is left alone for every other field.
-/

namespace CertPress.Record

open Json (Value Object)

/-- The image columns in the details of a category. -/
def Category.imageColumns : Category → List String
  | .spaTherapist => ["passport_size_photo", "candidate_signature"]
  | .appointmentLetter => ["manager_signature"]
  | .idCard => ["candidate_photo"]
  | _ => []

namespace DocumentDetails

theorem category_ofData (category : Category) (data : Object) (fallback : String) :
    (ofData category data fallback).category = category := by
  cases category <;> rfl

/-- A path is recorded in the image columns of the category, which stays. -/
theorem setAsset?_cases (details : DocumentDetails) (field path : String) :
    (field ∈ details.category.imageColumns ∧ ∃ changed,
      details.setAsset? field path = some changed ∧ changed.category = details.category) ∨
    (field ∉ details.category.imageColumns ∧ details.setAsset? field path = none) := by
  cases details with
  | spaTherapist details =>
      simp only [category, Category.imageColumns, setAsset?, List.mem_cons, List.not_mem_nil]
      split
      next photo => exact .inl ⟨.inl photo, _, rfl, rfl⟩
      next notPhoto =>
        split
        next signature => exact .inl ⟨.inr (.inl signature), _, rfl, rfl⟩
        next notSignature => exact .inr ⟨by simp [notPhoto, notSignature], rfl⟩
  | appointmentLetter details =>
      simp only [category, Category.imageColumns, setAsset?, List.mem_singleton]
      split
      next signature => exact .inl ⟨signature, _, rfl, rfl⟩
      next notSignature => exact .inr ⟨notSignature, rfl⟩
  | idCard details =>
      simp only [category, Category.imageColumns, setAsset?, List.mem_singleton]
      split
      next photo => exact .inl ⟨photo, _, rfl, rfl⟩
      next notPhoto => exact .inr ⟨notPhoto, rfl⟩
  | managerSalary _ => exact .inr ⟨List.not_mem_nil, rfl⟩
  | experienceLetter _ => exact .inr ⟨List.not_mem_nil, rfl⟩
  | invoiceSpaBill _ => exact .inr ⟨List.not_mem_nil, rfl⟩
  | dailySheet => exact .inr ⟨List.not_mem_nil, rfl⟩

end DocumentDetails

namespace Document

/-- A new document has the category of its template and the submitted payload. -/
theorem create_eq_ok {template : Template} {submission : Submission} {document : Document}
    (created : create template submission = .ok document) :
    document.id = submission.id ∧ document.category = template.category ∧
      document.certificateData = submission.data ∧ document.certificatePdf = none := by
  unfold create at created
  dsimp only at created
  split at created
  next => cases created
  next =>
    split at created
    next => cases created
    next =>
      cases created
      exact ⟨rfl, DocumentDetails.category_ofData _ _ _, rfl, rfl⟩

/-- A new document has the columns of its payload, and the organization only if its category
needs one. -/
theorem columns_create {template : Template} {submission : Submission} {document : Document}
    (created : create template submission = .ok document) :
    document.details =
        .ofData template.category submission.data submission.fallbackName ∧
      document.organizationId =
        if template.category.requiresOrganization then submission.organizationId else none := by
  unfold create at created
  dsimp only at created
  split at created
  next => cases created
  next =>
    split at created
    next => cases created
    next =>
      cases created
      exact ⟨rfl, rfl⟩

/-- The path of the PDF can be seen in a record. -/
theorem certificatePdf_of_toValue {left right : Document} (same : left.toValue = right.toValue) :
    left.certificatePdf = right.certificatePdf := by
  simp only [toValue, Value.object.injEq, List.cons.injEq, Prod.mk.injEq, true_and] at same
  have samePdf : Value.ofText? left.certificatePdf = Value.ofText? right.certificatePdf :=
    same.2.2.2.2.2.1
  cases isLeft : left.certificatePdf <;> cases isRight : right.certificatePdf <;>
    simp_all [Value.ofText?]

@[simp] theorem category_attachPdf (document : Document) (path : String) :
    (document.attachPdf path).category = document.category := rfl

/-- The document after the path of an image was recorded, if that has a column. -/
def recorded (document : Document) (field path : String) : Document :=
  (document.recordAsset? field path).getD document

section Recorded

variable (document : Document) (field path : String)

theorem recorded_frame :
    (document.recorded field path).id = document.id ∧
      (document.recorded field path).category = document.category := by
  rw [recorded, recordAsset?]
  rcases document.details.setAsset?_cases field path with ⟨-, changed, isSet, same⟩ | ⟨-, isNone⟩
  · rw [isSet]
    exact ⟨rfl, same⟩
  · rw [isNone]
    exact ⟨rfl, rfl⟩

/-- The path takes the place of what was submitted for an image column. -/
theorem get?_recorded (key : String) :
    (document.recorded field path).certificateData.get? key =
      if field = key ∧ field ∈ document.category.imageColumns ∧
          document.certificateData.contains field then some (.string path)
      else document.certificateData.get? key := by
  rw [recorded, recordAsset?, category]
  rcases document.details.setAsset?_cases field path with
    ⟨isColumn, changed, isSet, -⟩ | ⟨notColumn, isNone⟩
  · rw [isSet, Option.map_some, Option.getD_some]
    cases present : document.certificateData.contains field with
    | true => simp only [if_true, Mapping.get?_insert, isColumn, and_true]
    | false => simp
  · rw [isNone]
    simp [notColumn]

end Recorded

end Document

end CertPress.Record
