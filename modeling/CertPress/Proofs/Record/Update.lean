import CertPress.Proofs.Record.Document
import CertPress.Proofs.Record.Field
import Mathlib.Data.List.Induction

/-!
# Documents and their details

A document holds the submitted payload and the details that were read from it.  It
changes in two ways: the path of a stored image is recorded, in both of them, and
the path of the PDF is attached.  Whatever is done, the details stay those of the
payload, and the payload stays as it was submitted apart from the images that were
recorded.
-/

namespace CertPress.Record

open Json (Value Object)

/-! ## Details and payload -/

namespace DocumentDetails

/-- Recording the path of an image gives the details that are read from the payload
with the path in it. -/
theorem setAsset?_ofData {category : Category} {field path : String} (data : Object)
    (fallback : String) (isColumn : field ∈ category.imageColumns)
    (shown : Text.blank path = false) (trimmed : Text.trimmed path = path) :
    (ofData category data fallback).setAsset? field path =
      some (ofData category (data.insert field (.string path)) fallback) := by
  have own : textField? (data.insert field (.string path)) field = some path :=
    textField?_of_trimmed (by simp) shown trimmed
  have other {key : String} (differ : field ≠ key) :
      textField? (data.insert field (.string path)) key = textField? data key :=
    textField?_congr (by simp [differ])
  cases category with
  | spaTherapist =>
      simp only [Category.imageColumns, List.mem_cons, List.not_mem_nil, or_false] at isColumn
      rcases isColumn with rfl | rfl <;>
        simp [setAsset?, ofData, own, other, firstTextField?, List.findSome?_cons]
  | appointmentLetter =>
      obtain rfl := List.mem_singleton.mp isColumn
      simp [setAsset?, ofData, own, other, firstTextField?, List.findSome?_cons]
  | idCard =>
      obtain rfl := List.mem_singleton.mp isColumn
      simp [setAsset?, ofData, own, other, firstTextField?, List.findSome?_cons]
  | _ => exact absurd isColumn List.not_mem_nil

/-- The image columns of a category are required, and each is read from the field of
its name. -/
theorem imageColumn_ofData {category : Category} {field : String} (data : Object)
    (fallback : String) (isColumn : field ∈ category.imageColumns) :
    field ∈ category.requiredFields ∧
      (ofData category data fallback).toValue.member? field =
        some (.ofText? (textField? data field)) := by
  cases category with
  | spaTherapist =>
      simp only [Category.imageColumns, List.mem_cons, List.not_mem_nil, or_false] at isColumn
      rcases isColumn with rfl | rfl <;> exact ⟨by decide, rfl⟩
  | appointmentLetter =>
      obtain rfl := List.mem_singleton.mp isColumn
      exact ⟨by decide, rfl⟩
  | idCard =>
      obtain rfl := List.mem_singleton.mp isColumn
      exact ⟨by decide, rfl⟩
  | _ => exact absurd isColumn List.not_mem_nil

/-- Where no required field is missing, the payload has a value for every image
column. -/
theorem contains_imageColumn {category : Category} {data : Object} {fallback field : String}
    (complete : (ofData category data fallback).firstMissing category.requiredFields = none)
    (isColumn : field ∈ category.imageColumns) : data.contains field := by
  obtain ⟨required, column⟩ := imageColumn_ofData data fallback isColumn
  have filled := List.find?_eq_none.mp complete field required
  rw [column] at filled
  apply contains_of_textField?
  cases found : textField? data field with
  | none => simp [found, isMissing, Value.ofText?] at filled
  | some text => rfl

end DocumentDetails

namespace Document

/-! ## Updates -/

/-- What is done to a document once it was made. -/
inductive Update where
  /-- The path of a stored image is recorded for a field. -/
  | asset (field path : String)
  /-- The path of the PDF is attached. -/
  | pdf (path : String)
  deriving DecidableEq, Repr

/-- Whether a path that is recorded for an image is neither blank nor has blanks
around it. -/
def Update.Neat : Update → Prop
  | .asset _ path => Text.blank path = false ∧ Text.trimmed path = path
  | .pdf _ => True

instance : DecidablePred Update.Neat
  | .asset _ path =>
      inferInstanceAs (Decidable (Text.blank path = false ∧ Text.trimmed path = path))
  | .pdf _ => .isTrue trivial

/-- A document after an update. -/
def update (document : Document) : Update → Document
  | .asset field path => document.recorded field path
  | .pdf path => document.attachPdf path

/-- A document after updates, one after another. -/
def updated (document : Document) (updates : List Update) : Document :=
  updates.foldl update document

theorem updated_concat (document : Document) (updates : List Update) (last : Update) :
    document.updated (updates ++ [last]) = (document.updated updates).update last :=
  List.foldl_append

/-- Whether an image was recorded for a field by one of the updates. -/
def Records (document : Document) (updates : List Update) (field : String) : Prop :=
  ∃ front path behind, updates = front ++ .asset field path :: behind ∧
    ((document.updated front).recordAsset? field path).isSome

/-- Whether the details of a document are those of its payload, which has a value for
every image column. -/
structure InStep (category : Category) (fallback : String) (document : Document) : Prop where
  sameCategory : document.category = category
  details : DocumentDetails.ofData category document.certificateData fallback = document.details
  filled : ∀ field ∈ category.imageColumns, document.certificateData.contains field

section Steps

variable {category : Category} {fallback : String} {document : Document}

/-- A new document is in step. -/
theorem inStep_of_create {template : Template} {submission : Submission}
    (created : create template submission = .ok document) :
    InStep template.category submission.fallbackName document := by
  unfold create at created
  dsimp only at created
  split at created
  next => cases created
  next =>
    split at created
    next => cases created
    next complete =>
      cases created
      exact ⟨DocumentDetails.category_ofData _ _ _, rfl, fun field isColumn =>
        DocumentDetails.contains_imageColumn complete isColumn⟩

/-- Nothing is recorded for a field that is no image column. -/
theorem recordAsset?_eq_none_iff (document : Document) (field path : String) :
    document.recordAsset? field path = none ↔ field ∉ document.category.imageColumns := by
  rw [recordAsset?, Option.map_eq_none_iff, Document.category]
  rcases document.details.setAsset?_cases field path with
    ⟨isColumn, changed, isSet, -⟩ | ⟨notColumn, isNone⟩
  · simp [isSet, isColumn]
  · simp [isNone, notColumn]

/-- Recording an image keeps a document in step. -/
theorem InStep.recorded (inStep : InStep category fallback document) {field path : String}
    (shown : Text.blank path = false) (trimmed : Text.trimmed path = path) :
    InStep category fallback (document.recorded field path) := by
  by_cases isColumn : field ∈ category.imageColumns
  · have changed := DocumentDetails.setAsset?_ofData document.certificateData fallback isColumn
      shown trimmed
    rw [inStep.details] at changed
    have after : document.recorded field path =
        { document with
          details := DocumentDetails.ofData category
            (document.certificateData.insert field (.string path)) fallback
          certificateData := document.certificateData.insert field (.string path) } := by
      simp [Document.recorded, recordAsset?, changed, inStep.filled field isColumn]
    rw [after]
    exact ⟨DocumentDetails.category_ofData _ _ _, rfl, fun other isOther =>
      (Mapping.contains_insert _ _).mpr (.inr (inStep.filled other isOther))⟩
  · have same : document.recordAsset? field path = none := by
      rw [recordAsset?_eq_none_iff, inStep.sameCategory]
      exact isColumn
    rw [Document.recorded, same]
    exact inStep

/-- An update keeps a document in step. -/
theorem InStep.update (inStep : InStep category fallback document) {update : Update}
    (neat : update.Neat) : InStep category fallback (document.update update) := by
  cases update with
  | asset field path => exact inStep.recorded neat.1 neat.2
  | pdf path => exact ⟨inStep.sameCategory, inStep.details, inStep.filled⟩

/-- Updates keep a document in step. -/
theorem InStep.updated (inStep : InStep category fallback document) {updates : List Update}
    (neat : ∀ update ∈ updates, update.Neat) :
    InStep category fallback (document.updated updates) := by
  induction updates generalizing document with
  | nil => exact inStep
  | cons first rest hypothesis =>
      exact hypothesis (inStep.update (neat first (.head _)))
        fun other member => neat other (.tail _ member)

/-- A value of the payload stays as it is unless an image is recorded for its
field. -/
theorem get?_updated {key : String} {updates : List Update}
    (notRecorded : ¬ document.Records updates key) :
    (document.updated updates).certificateData.get? key = document.certificateData.get? key := by
  induction updates using List.reverseRecOn with
  | nil => rfl
  | append_singleton front last hypothesis =>
      have before : ¬ document.Records front key := by
        rintro ⟨start, path, behind, rfl, isSome⟩
        exact notRecorded ⟨start, path, behind ++ [last], by simp, isSome⟩
      rw [updated_concat, ← hypothesis before]
      cases last with
      | pdf path => rfl
      | asset field path =>
          rw [Document.update, get?_recorded, if_neg]
          rintro ⟨rfl, isColumn, -⟩
          apply notRecorded
          refine ⟨front, path, [], rfl, ?_⟩
          rw [Option.isSome_iff_ne_none, ne_eq, recordAsset?_eq_none_iff]
          exact not_not_intro isColumn

end Steps

/-- The details of a document are always those of its payload, whatever is done to it
after it was made.  The payload differs from the submitted one only in image columns
for which an image was recorded.  One is recorded for every image column and for no
other field, and where none is recorded the document is left alone. -/
theorem details_updated {template : Template} {submission : Submission} {document : Document}
    (created : create template submission = .ok document) {updates : List Update}
    (neat : ∀ update ∈ updates, update.Neat) :
    DocumentDetails.ofData document.category (document.updated updates).certificateData
        submission.fallbackName = (document.updated updates).details ∧
      (∀ key, (document.updated updates).certificateData.get? key ≠ submission.data.get? key →
        key ∈ document.category.imageColumns ∧ document.Records updates key) ∧
      ∀ field path,
        ((document.updated updates).recordAsset? field path = none ↔
          field ∉ document.category.imageColumns) ∧
        ((document.updated updates).recordAsset? field path = none →
          (document.updated updates).update (.asset field path) = document.updated updates) := by
  obtain ⟨-, sameCategory, sameData, -⟩ := create_eq_ok created
  have inStep := inStep_of_create created
  rw [sameCategory, ← sameData]
  refine ⟨(inStep.updated neat).details, fun key changed => ?_, fun field path => ⟨?_, ?_⟩⟩
  · have recorded : document.Records updates key := by
      by_contra notRecorded
      exact changed (get?_updated notRecorded)
    refine ⟨?_, recorded⟩
    obtain ⟨front, path, behind, rfl, isSome⟩ := recorded
    have inFront := inStep.updated fun update member => neat update (List.mem_append_left _ member)
    by_contra notColumn
    rw [← inFront.sameCategory, ← recordAsset?_eq_none_iff _ _ path] at notColumn
    simp [notColumn] at isSome
  · rw [recordAsset?_eq_none_iff, (inStep.updated neat).sameCategory]
  · intro isNone
    rw [update, recorded, isNone]
    rfl

/-- A template of ID cards. -/
def cardTemplate : Template :=
  { (default : Template) with category := .idCard }

/-- What an ID card of a person with a photo is made from. -/
def cardSubmission : Submission :=
  { (default : Submission) with
    organizationId := some default
    data := .ofList [("candidate_name", .string "A"), ("candidate_photo", .string "a.png"),
      ("designation", .string "B"), ("date_of_joining", .string "C"),
      ("contact_number", .string "1")] }

/-- The updates of an ID card: its photo is stored, a field that is no column is left
alone, and the PDF is attached before the photo is stored again. -/
def cardUpdates : List Update :=
  [.asset "candidate_photo" "media/a.png", .asset "notes" "media/b.png", .pdf "media/c.pdf",
   .asset "candidate_photo" "media/d.png"]

/-- The details of an ID card stay those of its payload. -/
theorem details_updated_idCard :
    ∃ document, create cardTemplate cardSubmission = .ok document ∧
      (∀ update ∈ cardUpdates, update.Neat) ∧
      DocumentDetails.ofData document.category (document.updated cardUpdates).certificateData
        cardSubmission.fallbackName = (document.updated cardUpdates).details ∧
      (∀ key, (document.updated cardUpdates).certificateData.get? key ≠
          cardSubmission.data.get? key →
        key ∈ document.category.imageColumns ∧ document.Records cardUpdates key) ∧
      ∀ field path,
        ((document.updated cardUpdates).recordAsset? field path = none ↔
          field ∉ document.category.imageColumns) ∧
        ((document.updated cardUpdates).recordAsset? field path = none →
          (document.updated cardUpdates).update (.asset field path) =
            document.updated cardUpdates) := by
  obtain ⟨document, created⟩ : ∃ document, create cardTemplate cardSubmission = .ok document :=
    ⟨_, rfl⟩
  have neat : ∀ update ∈ cardUpdates, update.Neat := by decide
  exact ⟨document, created, neat, details_updated created neat⟩

end Document

end CertPress.Record
