import CertPress.Proofs.Store.Contents
import CertPress.Record.Artifact
import Mathlib.Data.Set.Function

/-!
# A call to a store

An image or an artifact is stored with one call.  Images have keys of their own, and an
artifact has the key of the artifacts that it replaces.  A call that succeeds inserts its bytes
under its key in the mapping that the store holds, and one that fails leaves the mapping.
-/

namespace CertPress.Store

open FilePath (Plain ofNames)
open Record (Category ArtifactFormat Key.imageName Key.artifactName)

variable {root : FilePath} {disk after : Disk} {stored : Mapping Bytes}

/-- A call to a store of images and artifacts. -/
inductive Call where
  | image (document : Uuid) (kind : String) (content : Bytes) (extension : String)
  | artifact (document : Uuid) (content : Bytes) (extension : String)
  deriving DecidableEq, Repr

/-- An extension that images or artifacts have. -/
def IsExtension (extension : String) : Prop :=
  (∃ payload : Asset.Payload, payload.extension = extension) ∨
    ∃ format : ArtifactFormat, format.extension = extension

namespace Call

/-- The action of a call. -/
def save (root : FilePath) : Call → StoreAction String
  | .image document kind content extension => saveImage root content document kind extension
  | .artifact document content extension => saveArtifact root content document extension

/-- The bytes that are stored. -/
def content : Call → Bytes
  | .image _ _ content _ => content
  | .artifact _ content _ => content

/-- The key under which they are stored. -/
def key : Call → String
  | .image document kind content extension =>
      Record.Key.asset document kind (shortDigest content) extension
  | .artifact document _ extension => Record.Key.artifact document extension

/-- The name of the file. -/
def name : Call → String
  | .image document kind content extension =>
      Key.imageName document kind (shortDigest content) extension
  | .artifact document _ extension => Key.artifactName document extension

/-- What makes an image one of its own: its document, kind, bytes and extension. -/
def image? : Call → Option (Uuid × String × Bytes × String)
  | .image document kind content extension => some (document, kind, content, extension)
  | .artifact _ _ _ => none

/-- What makes an artifact one of its own: its document and extension. -/
def artifact? : Call → Option (Uuid × String)
  | .image _ _ _ _ => none
  | .artifact document _ extension => some (document, extension)

/-- The kind of an image is a field that holds images in some category, and the extension is
one of images or artifacts. -/
def Allowed : Call → Prop
  | .image _ kind _ extension =>
      (∃ category : Category, kind ∈ category.assetFields) ∧ IsExtension extension
  | .artifact _ _ extension => IsExtension extension

end Call

/-- Different images of some calls have different digests. -/
def CollisionFree (calls : List Call) : Prop :=
  Set.InjOn shortDigest
    {content | ∃ document kind extension, Call.image document kind content extension ∈ calls}

/-! ## The keys of calls -/

section Extension

variable {extension : String}

theorem IsExtension.fit (isExtension : IsExtension extension) :
    '/' ∉ extension.toList ∧ '\x00' ∉ extension.toList ∧ extension.utf8ByteSize ≤ 4 := by
  rcases isExtension with ⟨payload, rfl⟩ | ⟨format, rfl⟩
  · exact ⟨payload.slash_not_mem_extension, extension_fit payload⟩
  · cases format <;> decide

end Extension

namespace Call

variable {call other : Call} {calls : List Call}

theorem key_eq (call : Call) : call.key = ofNames ["certificates", call.name] := by
  cases call with
  | image document kind content extension => exact Record.Key.asset_eq _ _ _ _
  | artifact document content extension => exact Record.Key.artifact_eq _ _

theorem content_eq_of_image? (isImage : call.image?.isSome) (same : other.image? = call.image?) :
    other.content = call.content := by
  cases call with
  | artifact _ _ _ => cases isImage
  | image _ _ _ _ =>
      cases other with
      | artifact _ _ _ => cases same
      | image _ _ _ _ =>
          cases same
          rfl

section Allowed

variable (allowed : call.Allowed)
include allowed

theorem plain : Plain ["certificates", call.name] := by
  cases call with
  | image document kind content extension =>
      obtain ⟨⟨category, member⟩, isExtension⟩ := allowed
      exact Record.Key.plain_image document (Category.slash_not_mem_assetFields member)
        (slash_not_mem_shortDigest content) isExtension.fit.1
  | artifact document content extension =>
      exact Record.Key.plain_artifact document (IsExtension.fit allowed).1

theorem name_fits : Fits call.name := by
  cases call with
  | image document kind content extension =>
      obtain ⟨⟨category, member⟩, isExtension⟩ := allowed
      exact imageName_fits document isExtension.fit.2 member content
  | artifact document content extension =>
      exact artifactName_fits document (IsExtension.fit allowed).2

end Allowed

/-- The key of a call tells which image or artifact it is. -/
theorem key_inj (allowed : ∀ call ∈ calls, call.Allowed) (distinct : CollisionFree calls)
    (member : call ∈ calls) (otherMember : other ∈ calls) (same : call.key = other.key) :
    call.image? = other.image? ∧ call.artifact? = other.artifact? := by
  have isAllowed := allowed call member
  have otherAllowed := allowed other otherMember
  rw [key_eq, key_eq, Record.Key.ofNames_pair, Record.Key.ofNames_pair,
    String.append_right_inj] at same
  cases call with
  | image document kind content extension =>
      cases other with
      | image owner otherKind written ending =>
          obtain ⟨⟨category, isKind⟩, -⟩ := isAllowed
          obtain ⟨⟨otherCategory, otherIsKind⟩, -⟩ := otherAllowed
          have noDot (content : Bytes) : '.' ∉ (shortDigest content).toList :=
            not_mem_shortDigest (by decide) content
          obtain ⟨rfl, rfl, digests, rfl⟩ := Record.Key.imageName_inj
            (Category.free_of_mem_assetFields isKind).1
            (Category.free_of_mem_assetFields otherIsKind).1 (noDot content) (noDot written)
            (by rw [length_shortDigest, length_shortDigest]) same
          obtain rfl : content = written :=
            distinct ⟨_, _, _, member⟩ ⟨_, _, _, otherMember⟩ digests
          exact ⟨rfl, rfl⟩
      | artifact owner written ending =>
          exact absurd same.symm (Record.Key.artifactName_ne_imageName _ _ _ _ _ _)
  | artifact document content extension =>
      cases other with
      | image owner otherKind written ending =>
          exact absurd same (Record.Key.artifactName_ne_imageName _ _ _ _ _ _)
      | artifact owner written ending =>
          obtain ⟨rfl, rfl⟩ := Record.Key.artifactName_inj same
          exact ⟨rfl, rfl⟩

end Call

/-! ## One call -/

section Save

variable {call : Call} {outcome : Except StoreFault String} {path : String}

/-- A call that succeeds returns its key. -/
theorem Call.eq_key_of_save (saved : call.save root disk = (.ok path, after)) :
    path = call.key := by
  cases call with
  | image document kind content extension =>
      rw [Call.save, saveImage_eq] at saved
      split at saved
      next =>
        cases saved
        rfl
      next =>
        split at saved
        next =>
          cases saved
          rfl
        next => cases saved
  | artifact document content extension => exact (saveArtifact_eq_ok saved).1

/-- An image that is there already has to have the same bytes. -/
theorem holds_save (holds : Holds root "certificates" stored disk) (allowed : call.Allowed)
    (agrees : call.image?.isSome → ∀ content, stored.get? call.key = some content →
      content = call.content)
    (saved : call.save root disk = (outcome, after)) :
    Holds root "certificates" (insertIfOk stored call.key call.content outcome) after := by
  have plain := call.plain allowed
  cases call with
  | image document kind content extension =>
      exact holds_saveImage holds plain (agrees rfl) saved
  | artifact document content extension =>
      rw [Call.save, saveArtifact, Action.run_bind, Record.Key.artifact_eq] at saved
      rw [Call.key, Record.Key.artifact_eq]
      rcases written : put root (ofNames ["certificates", Key.artifactName document extension])
        content disk with ⟨fault | _, last⟩
      · have holdsLast := holds_put holds plain written
        rw [written] at saved
        cases saved
        exact holdsLast
      · have holdsLast := holds_put holds plain written
        rw [written] at saved
        cases saved
        exact holdsLast

/-- A call succeeds if the directory of its key is there or can be made, and leaves it there. -/
theorem save_of_open (holds : Holds root "certificates" stored disk) (allowed : call.Allowed)
    (roomy : Roomy root) (opened : disk.Open (root.join "certificates")) :
    ∃ after, call.save root disk = (.ok call.key, after) ∧
      after.Open (root.join "certificates") := by
  have plain := call.plain allowed
  have fits := call.name_fits allowed
  cases call with
  | image document kind content extension => exact saveImage_of_fits roomy opened plain fits
  | artifact document content extension =>
      obtain ⟨after, saved⟩ : ∃ after, saveArtifact root content document extension disk =
          (.ok (Record.Key.artifact document extension), after) :=
        saveArtifact_of_fits roomy opened plain fits
          fun _ prepared => holds.not_directory_of_prepare plain prepared
      refine ⟨after, saved, ?_⟩
      obtain ⟨-, isRead⟩ := saveArtifact_eq_ok saved
      rw [Record.Key.artifact_eq] at isRead
      obtain ⟨located, -⟩ := Disk.read_eq_ok.mp (read_eq_ok.mp isRead).2
      exact (open_of_locate plain located).1

end Save

end CertPress.Store
