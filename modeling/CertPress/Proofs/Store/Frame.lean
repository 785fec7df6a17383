import CertPress.Proofs.Record.Key
import CertPress.Proofs.Store.Staging
import CertPress.Store.Record

/-!
# What a store leaves alone

Whatever becomes of it, an operation on a store writes no file but the one that its
key names, and none at all if it fails.
-/

namespace CertPress

namespace Store

open Disk (Grows Keeps place)

variable {kept : Location → Prop}

/-- What two actions in turn keep. -/
theorem keeps_bind {α β : Type} {action : StoreAction α} {next : α → StoreAction β} {disk : Disk}
    (first : Keeps kept disk (action disk).2)
    (second : ∀ value between, action disk = (.ok value, between) →
      Keeps kept between (next value between).2) :
    Keeps kept disk ((action >>= next) disk).2 :=
  Action.rel_bind (Keeps kept) Keeps.trans first second

/-- An operation that looks up the path of its key and then works on the path. -/
theorem rel_withPath {α : Type} (Rel : Disk → Disk → Prop) (refl : ∀ disk, Rel disk disk)
    (trans : ∀ {first second third : Disk}, Rel first second → Rel second third → Rel first third)
    {root : FilePath} {key : String} {work : FilePath → StoreAction α} {disk : Disk}
    (rel : Rel disk (work (root.join key) disk).2) :
    Rel disk ((liftM (objectPath root key) >>= work) disk).2 := by
  refine Action.rel_bind Rel trans ?_ ?_
  · exact refl disk
  · intro path between found
    obtain ⟨isPath, rfl⟩ := Action.lift_eq_ok.mp found
    unfold objectPath at isPath
    split at isPath
    next =>
      cases isPath
      exact rel
    next => cases isPath

theorem grows_prepare (path : FilePath) (disk : Disk) :
    Grows (fun _ _ => False) disk (prepare path disk).2 := by
  have made := Disk.grows_makeDirectories (path.parent?.getD ⟨""⟩) disk
  unfold prepare
  dsimp only
  split
  next outcome => rwa [outcome] at made
  next outcome => rwa [outcome] at made

theorem keeps_prepare (path : FilePath) (disk : Disk) :
    Keeps (fun _ => True) disk (prepare path disk).2 :=
  (grows_prepare path disk).keeps fun _ _ _ => id

theorem keeps_put (root : FilePath) (key : String) (content : Bytes) (disk : Disk) :
    Keeps (fun other => other.key ≠ (disk.place (root.join key)).key) disk
      (put root key content disk).2 := by
  rw [put_eq]
  refine rel_withPath (Keeps _) (.refl _) Keeps.trans (keeps_bind ?_ ?_)
  · exact (keeps_prepare _ disk).mono fun _ _ => trivial
  · intro _ made prepared
    have keeps := keeps_prepare (root.join key) disk
    rw [prepared] at keeps
    have written := Disk.keeps_write (root.join key) content false made
    rw [keeps.place] at written
    split
    next outcome => rwa [outcome] at written
    next outcome => rwa [outcome] at written

/-- An object that is new is written under its key, if one is written at all. -/
theorem grows_putIfAbsent (root : FilePath) (key : String) (content : Bytes) (disk : Disk) :
    Grows (fun file written => file = (disk.place (root.join key)).key ∧ written = content) disk
      (putIfAbsent root key content disk).2 := by
  rw [putIfAbsent_eq]
  refine rel_withPath (Grows _) (.refl _) Grows.trans (Action.rel_bind (Grows _) Grows.trans ?_ ?_)
  · exact (grows_prepare _ disk).mono fun _ _ => False.elim
  · intro _ made prepared
    have keeps := keeps_prepare (root.join key) disk
    rw [prepared] at keeps
    have written := Disk.grows_writeNew (root.join key) content made
    rw [keeps.place] at written
    split
    next outcome => rwa [outcome] at written
    next outcome => rwa [outcome] at written
    next outcome => rwa [outcome] at written

theorem grows_saveImage (root : FilePath) (content : Bytes) (document : Uuid)
    (kind extension : String) (disk : Disk) :
    Grows (fun file written => file = (disk.place (root.join
        (Record.Key.asset document kind (shortDigest content) extension))).key ∧
        written = content) disk
      (saveImage root content document kind extension disk).2 := by
  unfold saveImage
  refine Action.rel_bind (Grows _) Grows.trans ?_ ?_
  · exact .refl _ disk
  · intro current between isCurrent
    cases isCurrent
    split
    next => exact .refl _ disk
    next =>
      refine Action.rel_bind (Grows _) Grows.trans (grows_putIfAbsent _ _ _ _) ?_
      intro _ after _
      exact .refl _ after

theorem keeps_saveImage (root : FilePath) (content : Bytes) (document : Uuid)
    (kind extension : String) (disk : Disk) :
    Keeps (fun other => other.key ≠ (disk.place (root.join
        (Record.Key.asset document kind (shortDigest content) extension))).key) disk
      (saveImage root content document kind extension disk).2 :=
  (grows_saveImage root content document kind extension disk).keeps
    fun _ apart _ isMade => apart isMade.1

/-- A write that fails changes no file, and it does not fail for want of an object. -/
theorem put_eq_error {root : FilePath} {key : String} {content : Bytes} {disk after : Disk}
    {fault : StoreFault} (failed : put root key content disk = (.error fault, after)) :
    Keeps (fun _ => True) disk after ∧ ∀ missing, fault ≠ .notFound missing := by
  rw [put_eq] at failed
  rcases Action.bind_eq_error.mp failed with refused | ⟨path, between, found, failed⟩
  · obtain ⟨isFault, rfl⟩ := Action.lift_eq_error.mp refused
    refine ⟨.refl _ disk, ?_⟩
    unfold objectPath at isFault
    split at isFault
    next => cases isFault
    next =>
      cases isFault
      exact fun _ => StoreFault.noConfusion
  obtain ⟨-, rfl⟩ := Action.lift_eq_ok.mp found
  have keeps := keeps_prepare path disk
  rcases Action.bind_eq_error.mp failed with unprepared | ⟨_, made, prepared, failed⟩
  · rw [unprepared] at keeps
    refine ⟨keeps, ?_⟩
    unfold prepare at unprepared
    dsimp only at unprepared
    split at unprepared
    next => cases unprepared
    next =>
      cases unprepared
      exact fun _ => StoreFault.noConfusion
  · rw [prepared] at keeps
    split at failed
    next => cases failed
    next _ same written =>
      cases failed
      refine ⟨?_, fun _ => StoreFault.noConfusion⟩
      unfold Disk.write at written
      split at written
      next => cases written
      next =>
        cases written
        exact keeps

theorem read_eq_ok {root : FilePath} {key : String} {disk : Disk} {content : Bytes} :
    read root key disk = .ok content ↔
      (key ≠ "" ∧ (⟨key⟩ : FilePath).isInner) ∧ disk.read (root.join key) = .ok content := by
  rw [read, objectPath]
  split
  next allowed =>
    simp only [bind, Except.bind]
    split
    next isRead => simp [allowed, isRead, pure, Except.pure]
    next isRead =>
      rw [isRead]
      simp [throw, throwThe, MonadExceptOf.throw]
    next fault _ isRead =>
      rw [isRead]
      simp [throw, throwThe, MonadExceptOf.throw]
  next forbidden => simp [forbidden, bind, Except.bind]

/-- An object that is kept is still read. -/
theorem read_of_keeps {root : FilePath} {key : String} {before after : Disk} {content : Bytes}
    (keeps : Keeps kept before after) (isKept : kept (before.place (root.join key)))
    (isRead : read root key before = .ok content) : read root key after = .ok content := by
  obtain ⟨allowed, found⟩ := read_eq_ok.mp isRead
  exact read_eq_ok.mpr ⟨allowed, keeps.read isKept found⟩

theorem saveArtifact_eq_ok {root : FilePath} {content : Bytes} {document : Uuid}
    {extension path : String} {disk after : Disk}
    (saved : saveArtifact root content document extension disk = (.ok path, after)) :
    path = Record.Key.artifact document extension ∧ read root path after = .ok content := by
  unfold saveArtifact at saved
  obtain ⟨_, written, done, last⟩ := Action.bind_eq_ok.mp saved
  obtain ⟨rfl, rfl⟩ := Action.pure_eq_ok.mp last
  exact ⟨rfl, read_put done⟩

theorem saveArtifact_eq_error {root : FilePath} {content : Bytes} {document : Uuid}
    {extension : String} {fault : StoreFault} {disk after : Disk}
    (failed : saveArtifact root content document extension disk = (.error fault, after)) :
    Keeps (fun _ => True) disk after ∧ ∀ missing, fault ≠ .notFound missing := by
  unfold saveArtifact at failed
  rcases Action.bind_eq_error.mp failed with unwritten | ⟨_, written, -, last⟩
  · exact put_eq_error unwritten
  · cases last

end Store

/-! ## Files with other names -/

/-- The last name of the location is not the given one. -/
def Location.Apart (name : String) (location : Location) : Prop :=
  ∃ front other, location = front ++ [other] ∧ '/' ∉ other.toList ∧ other ≠ name

namespace Store

open Disk (Keeps place)
open FilePath (Plain ofNames)
open Record (Key.documentName Key.artifactName Key.imageName)

variable {directory name other : String}

theorem apart_place (plain : Plain [directory, other]) (differ : other ≠ name) (root : FilePath)
    (disk : Disk) : (disk.place (root.join (ofNames [directory, other]))).Apart name := by
  have free := (plain.isName other (.tail _ (.head _))).2
  exact ⟨disk.place root ++ [directory], other, Disk.place_join_pair plain disk root, free, differ⟩

theorem record_apart_record {id other : Uuid} (differ : id ≠ other) (root : FilePath)
    (disk : Disk) :
    (disk.place (root.join (Record.Key.document id))).Apart (Key.documentName other) := by
  rw [Record.Key.document_eq]
  exact apart_place (Record.Key.plain_document id) (Record.Key.documentName_injective.ne differ)
    root disk

theorem record_apart_pdf (id other : Uuid) (root : FilePath) (disk : Disk) :
    (disk.place (root.join (Record.Key.document id))).Apart (Key.artifactName other "pdf") := by
  rw [Record.Key.document_eq]
  exact apart_place (Record.Key.plain_document id)
    (Record.Key.documentName_ne_artifactName id other "pdf") root disk

theorem pdf_apart_record (id other : Uuid) (root : FilePath) (disk : Disk) :
    (disk.place (root.join (Record.Key.artifact id "pdf"))).Apart (Key.documentName other) := by
  rw [Record.Key.artifact_eq]
  exact apart_place (Record.Key.plain_artifact id (by decide))
    (Record.Key.documentName_ne_artifactName other id "pdf").symm root disk

theorem pdf_apart_pdf {id other : Uuid} (differ : id ≠ other) (root : FilePath) (disk : Disk) :
    (disk.place (root.join (Record.Key.artifact id "pdf"))).Apart
      (Key.artifactName other "pdf") := by
  rw [Record.Key.artifact_eq]
  exact apart_place (Record.Key.plain_artifact id (by decide))
    ((Record.Key.artifactName_injective "pdf").ne differ) root disk

theorem key_ne_of_apart {location : Location} (apart : location.Apart name)
    (plain : Plain [directory, name]) (root : FilePath) (disk : Disk) :
    location.key ≠ (disk.place (root.join (ofNames [directory, name]))).key := by
  obtain ⟨front, other, rfl, free, differ⟩ := apart
  rw [Disk.place_join_pair plain]
  exact Disk.key_concat_ne differ free (plain.isName name (.tail _ (.head _))).2

theorem keeps_saveRecord (root : FilePath) (id : Uuid) (record : Json.Value) (disk : Disk) :
    Keeps (Location.Apart (Key.documentName id)) disk
      (saveRecord root (Record.Key.document id) record disk).2 := by
  refine (keeps_put _ _ _ disk).mono fun location apart => ?_
  rw [Record.Key.document_eq]
  exact key_ne_of_apart apart (Record.Key.plain_document id) root disk

theorem keeps_saveArtifact (root : FilePath) (content : Bytes) (id : Uuid) {extension : String}
    (free : '/' ∉ extension.toList) (disk : Disk) :
    Keeps (Location.Apart (Key.artifactName id extension)) disk
      (saveArtifact root content id extension disk).2 := by
  refine keeps_bind ?_ ?_
  · refine (keeps_put _ _ _ disk).mono fun location apart => ?_
    rw [Record.Key.artifact_eq]
    exact key_ne_of_apart apart (Record.Key.plain_artifact id free) root disk
  · intro _ between _
    exact .refl _ between

theorem keeps_saveImage_apart (root : FilePath) (content : Bytes) (id : Uuid)
    {kind extension : String} (kindFree : '/' ∉ kind.toList) (free : '/' ∉ extension.toList)
    (disk : Disk) :
    Keeps (Location.Apart (Key.imageName id kind (shortDigest content) extension)) disk
      (saveImage root content id kind extension disk).2 := by
  refine (keeps_saveImage _ _ _ _ _ disk).mono fun location apart => ?_
  rw [Record.Key.asset_eq]
  have plain := Record.Key.plain_image id kindFree (slash_not_mem_shortDigest content) free
  exact key_ne_of_apart apart plain root disk

/-! ## The files of documents -/

/-- The files that documents have: a record below the root of records, and a PDF below
the root of images. -/
inductive Held (records images : FilePath) (disk : Disk) : Location → Prop where
  | record (id : Uuid) :
      Held records images disk (disk.place (records.join (Record.Key.document id)))
  | pdf (id : Uuid) :
      Held records images disk (disk.place (images.join (Record.Key.artifact id "pdf")))

/-- No file of a document changes from one disk to another. -/
def Spared (records images : FilePath) (before after : Disk) : Prop :=
  Keeps (Held records images before) before after

variable {records images : FilePath}

theorem held_of_workingDirectory {before after : Disk} {location : Location}
    (same : after.workingDirectory = before.workingDirectory)
    (held : Held records images before location) : Held records images after location := by
  have place_eq (path : FilePath) : before.place path = after.place path := by
    rw [Disk.place, Disk.start, ← same, Disk.place, Disk.start]
  cases held with
  | record id =>
      rw [place_eq]
      exact .record id
  | pdf id =>
      rw [place_eq]
      exact .pdf id

theorem Spared.refl (disk : Disk) : Spared records images disk disk := Keeps.refl _ disk

theorem Spared.trans {first second third : Disk} (earlier : Spared records images first second)
    (later : Spared records images second third) : Spared records images first third := by
  refine Keeps.trans earlier (Keeps.mono later fun location held => ?_)
  exact held_of_workingDirectory earlier.workingDirectory held

/-- The name of no document's file is that of an image. -/
theorem apart_of_held {disk : Disk} {location : Location} (held : Held records images disk location)
    (owner : Uuid) (kind digest extension : String) :
    location.Apart (Key.imageName owner kind digest extension) := by
  cases held with
  | record id =>
      rw [Record.Key.document_eq]
      exact apart_place (Record.Key.plain_document id)
        (Record.Key.documentName_ne_imageName id owner kind digest extension) _ disk
  | pdf id =>
      rw [Record.Key.artifact_eq]
      exact apart_place (Record.Key.plain_artifact id (by decide))
        (Record.Key.artifactName_ne_imageName id owner "pdf" kind digest extension) _ disk

theorem spared_saveImage (root : FilePath) (content : Bytes) (id : Uuid)
    {kind extension : String} (kindFree : '/' ∉ kind.toList) (free : '/' ∉ extension.toList)
    (disk : Disk) :
    Spared records images disk (saveImage root content id kind extension disk).2 :=
  (keeps_saveImage_apart root content id kindFree free disk).mono fun _ held =>
    apart_of_held held _ _ _ _

end Store

end CertPress
