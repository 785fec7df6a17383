import CertPress.Proofs.Store.Open

/-!
# Storing images again

All images of a document are stored in one directory.  If it is there, or was made, then an
image is stored unless its path is refused, and if something has its name already then
nothing is written.  If the directory cannot be made then no image is stored, now or later.
So what was stored once is stored again without a change, and what was not stored is not
stored later either.
-/

namespace CertPress

open FilePath (Plain ofNames)

namespace Disk

variable {disk before between after : Disk} {path : FilePath}

/-- The directory of a path is not there and cannot be made, not even in part. -/
def Blocked (disk : Disk) (path : FilePath) : Prop :=
  ∃ fault, makeDirectories path disk = (.error fault, disk)

/-- What comes after a disk when images are stored: nothing is lost, and nothing changes if
their directory cannot be made. -/
structure Follows (path : FilePath) (before after : Disk) : Prop where
  grows : Grows (fun _ _ => True) before after
  blocked : before.Blocked path → after = before

namespace Follows

theorem refl (path : FilePath) (disk : Disk) : Follows path disk disk :=
  ⟨.refl _ disk, fun _ => rfl⟩

theorem trans (first : Follows path before between) (second : Follows path between after) :
    Follows path before after := by
  refine ⟨first.grows.trans second.grows, fun blocked => ?_⟩
  obtain rfl := first.blocked blocked
  exact second.blocked blocked

end Follows

theorem step_ne_alreadyExists (disk : Disk) (here : Location) (name : String) :
    disk.step here name ≠ .error .alreadyExists := by
  unfold step
  split
  next => simp
  next => simp
  next => split <;> [simp; split <;> [simp; split <;> simp]]

/-- A path does not fail to lead anywhere because of what it leads to. -/
theorem locate_ne_alreadyExists (disk : Disk) (path : FilePath) :
    disk.locate path ≠ .error .alreadyExists := by
  have walk (names : List String) (here : Location) :
      names.foldlM disk.step here ≠ .error .alreadyExists := by
    induction names generalizing here with
    | nil => simp [pure, Except.pure]
    | cons name rest hypothesis =>
        rw [List.foldlM_cons]
        cases stepped : disk.step here name with
        | error fault =>
            intro same
            cases same
            exact step_ne_alreadyExists disk here name stepped
        | ok next => exact hypothesis next
  unfold locate refusal?
  split
  next fault refused =>
    split at refused
    next => cases refused; simp
    next =>
      split at refused
      next => cases refused; simp
      next => cases refused
  next =>
    split
    next => simp
    next => exact walk _ _

end Disk

namespace Store

open Disk (Grows Follows)

variable {root : FilePath} {directory name : String} {disk before made after later : Disk}
variable {content : Bytes}

section Key

variable (plain : Plain [directory, name])
include plain

theorem prepare_of_isDirectory (isDirectory : disk.isDirectory (root.join directory)) :
    prepare (root.join (ofNames [directory, name])) disk = (.ok (), disk) := by
  rw [prepare_eq plain, Disk.makeDirectories_of_isDirectory
    (endsWithSlash_join_directory plain root) isDirectory]

/-- Where the directory of a key is there, it leads to the key or not for good. -/
theorem locate_congr (isDirectory : before.isDirectory (root.join directory))
    {kept : Location → Prop} (keeps : Disk.Keeps kept before after) :
    after.locate (root.join (ofNames [directory, name])) =
      before.locate (root.join (ofNames [directory, name])) := by
  obtain ⟨located, isThere⟩ := Disk.isDirectory_iff.mp isDirectory
  rw [locate_join_pair plain, locate_join_pair plain, located, keeps.locate located]
  cases Disk.refusal? (root.join (ofNames [directory, name])) with
  | some fault => rfl
  | none => exact Disk.step_congr isThere (keeps.directory _ isThere)

/-- What becomes of a new object in a directory. -/
theorem putIfAbsent_of_isDirectory (isDirectory : disk.isDirectory (root.join directory)) :
    putIfAbsent root (ofNames [directory, name]) content disk =
      match disk.locate (root.join (ofNames [directory, name])) with
      | .error fault => (.error (.disk (root.join (ofNames [directory, name])) fault), disk)
      | .ok location =>
          match disk.at? location with
          | some _ => (.ok false, disk)
          | none => (.ok true, disk.set location (.file content false)) := by
  rw [putIfAbsent_of_prepare plain (prepare_of_isDirectory plain isDirectory)]
  unfold Disk.writeNew
  cases located : disk.locate (root.join (ofNames [directory, name])) with
  | error fault =>
      have other : fault ≠ .alreadyExists := by
        rintro rfl
        exact Disk.locate_ne_alreadyExists disk _ located
      rw [target_of_not_located plain true located]
      cases fault <;> first | rfl | exact absurd rfl other
  | ok location =>
      rw [target_of_locate plain located]
      dsimp only
      cases disk.at? location with
      | none => rfl
      | some entry => rfl

/-- An object lies in its directory. -/
theorem isDirectory_of_contains (contained : contains root (ofNames [directory, name]) disk) :
    disk.isDirectory (root.join directory) := by
  obtain ⟨location, content, executable, found⟩ := Disk.isFile_iff.mp (contains_iff.mp contained).2
  exact isDirectory_of_locate plain (Disk.find_eq_ok.mp found).1

/-- In a directory that cannot be made there is nothing, and nothing can be written. -/
theorem not_isDirectory_of_blocked (blocked : disk.Blocked (root.join directory)) :
    disk.isDirectory (root.join directory) = false := by
  rw [Bool.eq_false_iff]
  intro isDirectory
  obtain ⟨fault, failed⟩ := blocked
  cases failed.symm.trans (Disk.makeDirectories_of_isDirectory
    (endsWithSlash_join_directory plain root) isDirectory)

theorem follows_prepare (root : FilePath) (disk : Disk) :
    Follows (root.join directory) disk
      (prepare (root.join (ofNames [directory, name])) disk).2 := by
  refine ⟨(grows_prepare _ disk).mono fun _ _ => False.elim, fun blocked => ?_⟩
  obtain ⟨fault, failed⟩ := blocked
  rw [prepare_eq plain, failed]

/-- Where a key could not be prepared, its directory cannot be made. -/
theorem blocked_of_prepare {fault : StoreFault}
    (unprepared : prepare (root.join (ofNames [directory, name])) disk = (.error fault, made)) :
    made.Blocked (root.join directory) := by
  rw [prepare_eq plain] at unprepared
  split at unprepared
  next => cases unprepared
  next inner same outcome =>
    cases unprepared
    exact ⟨inner, Disk.makeDirectories_again outcome⟩

end Key

section Image

open Record (Key.imageName)

variable {id : Uuid} {kind extension : String}

theorem saveImage_eq (root : FilePath) (content : Bytes) (id : Uuid) (kind extension : String)
    (disk : Disk) :
    saveImage root content id kind extension disk =
      if contains root (Record.Key.asset id kind (shortDigest content) extension) disk then
        (.ok (Record.Key.asset id kind (shortDigest content) extension), disk)
      else
        match putIfAbsent root (Record.Key.asset id kind (shortDigest content) extension) content
          disk with
        | (.ok _, after) => (.ok (Record.Key.asset id kind (shortDigest content) extension), after)
        | (.error fault, after) => (.error fault, after) := by
  have current : (get : StoreAction Disk) disk = (.ok disk, disk) := rfl
  simp only [saveImage, Action.run_bind, current]
  split
  next => rfl
  next =>
    rw [Action.run_bind]
    split
    next stored => simp only [stored]; rfl
    next failed => simp only [failed]

variable (plain : Plain ["certificates", Key.imageName id kind (shortDigest content) extension])
include plain

/-- What becomes of an image whose directory is there. -/
theorem saveImage_of_isDirectory (isDirectory : disk.isDirectory (root.join "certificates")) :
    saveImage root content id kind extension disk =
      match disk.locate
        (root.join (Record.Key.asset id kind (shortDigest content) extension)) with
      | .error fault => (.error (.disk (root.join
          (Record.Key.asset id kind (shortDigest content) extension)) fault), disk)
      | .ok location =>
          (.ok (Record.Key.asset id kind (shortDigest content) extension),
            match disk.at? location with
            | some _ => disk
            | none => disk.set location (.file content false)) := by
  rw [saveImage_eq, Record.Key.asset_eq]
  split
  next contained =>
    obtain ⟨location, written, executable, found⟩ :=
      Disk.isFile_iff.mp (contains_iff.mp contained).2
    obtain ⟨located, isThere⟩ := Disk.find_eq_ok.mp found
    simp only [located, isThere]
  next =>
    rw [putIfAbsent_of_isDirectory plain isDirectory]
    cases disk.locate (root.join (ofNames
      ["certificates", Key.imageName id kind (shortDigest content) extension])) with
    | error fault => rfl
    | ok location =>
        dsimp only
        cases disk.at? location with
        | none => rfl
        | some entry => rfl

/-- An image is stored as it is where its directory was made. -/
theorem saveImage_of_prepare (prepared : prepare (root.join (ofNames
      ["certificates", Key.imageName id kind (shortDigest content) extension])) disk =
        (.ok (), made)) :
    saveImage root content id kind extension disk =
      saveImage root content id kind extension made := by
  have isDirectory := isDirectory_of_prepare plain prepared
  by_cases contained :
      contains root (Record.Key.asset id kind (shortDigest content) extension) disk
  · rw [Record.Key.asset_eq] at contained
    have already := prepare_of_isDirectory plain (isDirectory_of_contains plain contained)
    cases already.symm.trans prepared
    rfl
  · rw [saveImage_eq, if_neg contained, Record.Key.asset_eq, putIfAbsent_of_prepare plain prepared,
      ← putIfAbsent_of_prepare plain (prepare_of_isDirectory plain isDirectory),
      putIfAbsent_of_isDirectory plain isDirectory, saveImage_of_isDirectory plain isDirectory,
      Record.Key.asset_eq]
    cases made.locate (root.join (ofNames
      ["certificates", Key.imageName id kind (shortDigest content) extension])) with
    | error fault => rfl
    | ok location =>
        dsimp only
        cases made.at? location with
        | none => rfl
        | some entry => rfl

/-- No image is stored where its directory could not be made. -/
theorem saveImage_of_unprepared {fault : StoreFault} (unprepared : prepare (root.join (ofNames
      ["certificates", Key.imageName id kind (shortDigest content) extension])) disk =
        (.error fault, made)) :
    saveImage root content id kind extension disk = (.error fault, made) := by
  have absent :
      ¬ contains root (Record.Key.asset id kind (shortDigest content) extension) disk := by
    intro contained
    rw [Record.Key.asset_eq] at contained
    have already := prepare_of_isDirectory plain (isDirectory_of_contains plain contained)
    cases already.symm.trans unprepared
  rw [saveImage_eq, if_neg absent, Record.Key.asset_eq, putIfAbsent_of_unprepared plain unprepared]

/-- An image is written to a directory that is there by then, or its directory cannot be
made. -/
theorem saveImage_cases (root : FilePath) (disk : Disk) :
    ∃ made, Follows (root.join "certificates") disk made ∧
      (made.isDirectory (root.join "certificates") ∧
          saveImage root content id kind extension disk =
            saveImage root content id kind extension made ∨
        made.Blocked (root.join "certificates") ∧ ∃ fault,
          saveImage root content id kind extension disk = (.error fault, made)) := by
  have follows := follows_prepare plain root disk
  rcases prepared : prepare (root.join (ofNames
    ["certificates", Key.imageName id kind (shortDigest content) extension])) disk with
    ⟨fault | _, made⟩
  · rw [prepared] at follows
    exact ⟨made, follows, .inr ⟨blocked_of_prepare plain prepared, fault,
      saveImage_of_unprepared plain prepared⟩⟩
  · rw [prepared] at follows
    exact ⟨made, follows, .inl ⟨isDirectory_of_prepare plain prepared,
      saveImage_of_prepare plain prepared⟩⟩

theorem saveImage_of_blocked (root : FilePath)
    (blocked : disk.Blocked (root.join "certificates")) :
    ∃ fault, saveImage root content id kind extension disk = (.error fault, disk) := by
  obtain ⟨made, follows, outcome⟩ := saveImage_cases plain root disk
  obtain rfl := follows.blocked blocked
  rcases outcome with ⟨isDirectory, -⟩ | ⟨-, fault, failed⟩
  · rw [not_isDirectory_of_blocked plain blocked] at isDirectory
    cases isDirectory
  · exact ⟨fault, failed⟩

theorem follows_saveImage (root : FilePath) (disk : Disk) :
    Follows (root.join "certificates") disk (saveImage root content id kind extension disk).2 := by
  refine ⟨(grows_saveImage root content id kind extension disk).mono fun _ _ _ => trivial,
    fun blocked => ?_⟩
  obtain ⟨fault, failed⟩ := saveImage_of_blocked plain root blocked
  rw [failed]

/-- Storing an image again changes nothing, and ends in the same way. -/
theorem saveImage_again {result : Except StoreFault String}
    (saved : saveImage root content id kind extension disk = (result, after))
    (follows : Follows (root.join "certificates") after later) :
    ∃ again, saveImage root content id kind extension later = (again, later) ∧
      again.toOption = result.toOption := by
  obtain ⟨made, -, outcome⟩ := saveImage_cases plain root disk
  rcases outcome with ⟨isDirectory, same⟩ | ⟨blocked, fault, failed⟩
  · rw [same] at saved
    have grows := (grows_saveImage root content id kind extension made).mono
      fun _ _ _ => trivial
    rw [saved] at grows
    have growsLater : Grows (fun _ _ => True) made later := grows.trans follows.grows
    have keeps : Disk.Keeps (fun _ => False) made later := growsLater.keeps fun _ => False.elim
    have sameWay := locate_congr plain isDirectory keeps
    have isDirectoryLater := Disk.isDirectory_of_keeps keeps isDirectory
    rw [saveImage_of_isDirectory plain isDirectory, Record.Key.asset_eq] at saved
    rw [saveImage_of_isDirectory plain isDirectoryLater, Record.Key.asset_eq, sameWay]
    cases located : made.locate (root.join (ofNames
      ["certificates", Key.imageName id kind (shortDigest content) extension])) with
    | error fault =>
        rw [located] at saved
        cases saved
        exact ⟨_, rfl, rfl⟩
    | ok location =>
        simp only [located] at saved
        -- By now something is at the location: what was there, or the image.
        have isThere : ∃ entry, later.at? location = some entry := by
          cases before : made.at? location with
          | some entry => exact ⟨entry, growsLater.entry location entry before⟩
          | none =>
              simp only [before] at saved
              cases saved
              exact ⟨_, follows.grows.entry location _ (Disk.at?_set_self before _)⟩
        obtain ⟨entry, isThere⟩ := isThere
        cases saved
        simp only [isThere]
        exact ⟨_, rfl, rfl⟩
  · cases failed.symm.trans saved
    obtain rfl := follows.blocked blocked
    obtain ⟨inner, failedAgain⟩ := saveImage_of_blocked plain root blocked
    exact ⟨_, failedAgain, rfl⟩

end Image

end Store

end CertPress
