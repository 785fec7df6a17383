import CertPress.Proofs.Files.Beside
import CertPress.Proofs.Store.Contents

/-!
# Stores that look the same

A record is stored beside the roots of images if its directory lies outside of them and none
of them lies below the record.  Then the roots look the same as before: a key names a file if it
named one, and an image is stored with the same result.
-/

namespace CertPress.Store

open Disk (Beside Rooted Seen)
open FilePath (Plain ofNames)
open Location (Covers)

variable {disk other after : Disk} {root records : FilePath} {roots : List FilePath}
variable {directory name : String} {content : Bytes} {front rest : List String}

/-! ## The way to a root -/

namespace Straight

variable (straight : Straight root disk)
include straight

/-- On the way to a root that is a directory there are directories. -/
theorem reach (rooted : disk.Rooted) (isThere : disk.at? (disk.place root) = some .directory)
    (split : (root.pieces.filter (!List.isEmpty ·)).map String.ofList = front ++ rest) :
    disk.at? (front.foldl Disk.next (disk.start root)) = some .directory := by
  obtain ⟨more, routed⟩ := Disk.exists_route split
  rcases straight.way routed with covers | directory
  · exact rooted.directory_above covers isThere
  · exact directory

theorem mono {kept : Location → Prop} (keeps : Disk.Keeps kept disk after) :
    Straight root after :=
  straight.imp_left (Disk.isDirectory_of_keeps keeps)

end Straight

/-! ## Roots that look the same -/

/-- Two disks that are alike below some roots, whose ways are straight on the first one. -/
structure Alike (roots : List FilePath) (disk other : Disk) : Prop where
  rooted : disk.Rooted
  straight : ∀ root ∈ roots, Straight root disk
  beside : Beside roots disk other

namespace Alike

variable (alike : Alike roots disk other) (member : root ∈ roots)
include alike member

/-- A key names a file on both disks or on none. -/
theorem contains (key : String) : contains root key other = contains root key disk := by
  rw [Bool.eq_iff_iff, contains_iff, contains_iff]
  refine and_congr_right fun ⟨filled, inner⟩ => ?_
  rw [alike.beside.isFile_join filled inner member fun isThere _ _ =>
    (alike.straight root member).reach alike.rooted isThere]

section Key

variable (plain : Plain [directory, name])
include plain

/-- What is missing on the way to the directory of a key is seen. -/
theorem way_directory (split : Disk.route (root.join directory) = front ++ rest) :
    Seen roots disk (front.foldl Disk.next (disk.start (root.join directory))) ∨
      disk.at? (front.foldl Disk.next (disk.start (root.join directory))) = some .directory := by
  refine ((alike.straight root member).way_directory plain split).imp_left fun covers => ?_
  rcases Covers.of_concat (plain.isName directory (.head _)).2 covers with same | above
  · exact ⟨root, member, .inl ((Covers.concat _ _).trans (.of_key same.symm))⟩
  · exact ⟨root, member, .inr above⟩

/-- The directory of a key is made on both disks or on none, and then they still look the
same. -/
theorem prepare :
    (Store.prepare (root.join (ofNames [directory, name])) other).1 =
        (Store.prepare (root.join (ofNames [directory, name])) disk).1 ∧
      Alike roots (Store.prepare (root.join (ofNames [directory, name])) disk).2
        (Store.prepare (root.join (ofNames [directory, name])) other).2 := by
  have keeps := keeps_prepare (root.join (ofNames [directory, name])) disk
  have straight (base : FilePath) (isRoot : base ∈ roots) := (alike.straight base isRoot).mono keeps
  cases refused : Disk.refusal? (root.join directory) with
  | some fault =>
      simp only [prepare_eq plain, Disk.makeDirectories, refused]
      exact ⟨trivial, alike⟩
  | none =>
      have noSlash := endsWithSlash_join_directory plain root
      have sameStart : other.start (root.join directory) = disk.start (root.join directory) := by
        rw [Disk.start, alike.beside.workingDirectory, ← Disk.start]
      obtain ⟨sameResult, beside⟩ := alike.beside.makeFrom (alike.rooted.at?_start _)
        fun front rest split _ => alike.way_directory member plain split
      have rooted : (disk.makeFrom (disk.start (root.join directory))
          (Disk.route (root.join directory))).2.Rooted :=
        alike.rooted.makeFrom fun _ => Disk.slash_not_mem_route
      rw [prepare_eq plain, Disk.makeDirectories_eq noSlash refused] at straight ⊢
      rw [prepare_eq plain, Disk.makeDirectories_eq noSlash refused, sameStart]
      rcases made : disk.makeFrom (disk.start (root.join directory))
        (Disk.route (root.join directory)) with ⟨result, made⟩
      rcases otherMade : other.makeFrom (disk.start (root.join directory))
        (Disk.route (root.join directory)) with ⟨otherResult, otherMade⟩
      simp only [made, otherMade] at sameResult beside rooted straight
      subst sameResult
      cases otherResult with
      | error fault => exact ⟨rfl, rooted, straight, beside⟩
      | ok _ => exact ⟨rfl, rooted, straight, beside⟩

omit member in
/-- A file is added at the place of a key. -/
theorem set {location : Location}
    (located : disk.locate (root.join (ofNames [directory, name])) = .ok location)
    (nothing : disk.at? location = none) (content : Bytes) :
    Alike roots (disk.set location (.file content false))
      (other.set location (.file content false)) := by
  obtain ⟨-, isThere⟩ := Disk.isDirectory_iff.mp (isDirectory_of_locate plain located)
  have isPlace : location = disk.place (root.join directory) ++ [name] := by
    rw [Disk.eq_place_of_locate located, Disk.place_join_pair plain, place_join_directory plain]
  have keeps : Disk.Keeps (fun _ => False) disk (disk.set location (.file content false)) :=
    (Disk.grows_set_file nothing content false).keeps fun _ => False.elim
  have straight (base : FilePath) (isRoot : base ∈ roots) := (alike.straight base isRoot).mono keeps
  have free := (plain.isName name (.tail _ (.head _))).2
  rw [isPlace] at nothing straight ⊢
  exact ⟨alike.rooted.set isThere free nothing _, straight, alike.beside.set _ _⟩

end Key

open Record (Key.imageName)

/-- An image is stored with the same result, and then the disks still look the same. -/
theorem saveImage {id : Uuid} {kind extension : String}
    (plain : Plain ["certificates", Key.imageName id kind (shortDigest content) extension]) :
    (saveImage root content id kind extension other).1 =
        (saveImage root content id kind extension disk).1 ∧
      Alike roots (saveImage root content id kind extension disk).2
        (saveImage root content id kind extension other).2 := by
  obtain ⟨sameResult, alikeMade⟩ := alike.prepare member plain
  rcases prepared : Store.prepare (root.join (ofNames
    ["certificates", Key.imageName id kind (shortDigest content) extension])) disk with
    ⟨result, made⟩
  rcases otherPrepared : Store.prepare (root.join (ofNames
    ["certificates", Key.imageName id kind (shortDigest content) extension])) other with
    ⟨otherResult, otherMade⟩
  rw [prepared, otherPrepared] at sameResult alikeMade
  dsimp only at sameResult alikeMade
  subst sameResult
  cases otherResult with
  | error fault =>
      rw [saveImage_of_unprepared plain prepared, saveImage_of_unprepared plain otherPrepared]
      exact ⟨rfl, alikeMade⟩
  | ok _ =>
      have isDirectory := isDirectory_of_prepare plain prepared
      have sameLocate := locate_congr plain isDirectory alikeMade.beside.keeps
      rw [saveImage_of_prepare plain prepared, saveImage_of_prepare plain otherPrepared,
        saveImage_of_isDirectory plain isDirectory,
        saveImage_of_isDirectory plain (isDirectory_of_prepare plain otherPrepared),
        Record.Key.asset_eq, sameLocate]
      cases located : made.locate (root.join (ofNames
        ["certificates", Key.imageName id kind (shortDigest content) extension])) with
      | error fault => exact ⟨rfl, alikeMade⟩
      | ok location =>
          have covers : (made.place root).Covers location := by
            rw [Disk.eq_place_of_locate located, Disk.place_join plain]
            exact .append _ _
          dsimp only
          rw [alikeMade.beside.inside root member location covers]
          cases isThere : made.at? location with
          | some entry => exact ⟨rfl, alikeMade⟩
          | none => exact ⟨rfl, alikeMade.set plain located isThere content⟩

end Alike

/-! ## Records beside the roots -/

/-- The directory of a record lies outside a root, and the root is neither the record nor below
it. -/
structure Outside (records : FilePath) (directory name : String) (root : FilePath) (disk : Disk) :
    Prop where
  outer : ¬ (disk.place root).Covers (disk.place records ++ [directory])
  inner : ¬ (disk.place records ++ [directory] ++ [name]).Covers (disk.place root)

/-- The record is not below the root. -/
theorem Outside.not_below (outside : Outside records directory name root disk)
    (free : '/' ∉ name.toList) :
    ¬ (disk.place root).Covers (disk.place records ++ [directory] ++ [name]) := by
  intro inside
  rcases Covers.of_concat free inside with same | above
  · exact outside.inner (.of_key same.symm)
  · exact outside.outer above

/-- A write that succeeds puts the content at the place of its key. -/
theorem put_eq_ok (plain : Plain [directory, name])
    (written : put records (ofNames [directory, name]) content disk = (.ok (), after)) :
    after = (prepare (records.join (ofNames [directory, name])) disk).2.set
      (disk.place (records.join (ofNames [directory, name]))) (.file content false) := by
  have keeps := keeps_prepare (records.join (ofNames [directory, name])) disk
  rcases prepared : prepare (records.join (ofNames [directory, name])) disk with ⟨fault | _, made⟩
  · cases (put_of_unprepared plain prepared).symm.trans written
  · rw [put_of_prepare plain prepared] at written
    rw [prepared] at keeps
    rw [← keeps.place]
    unfold Disk.write at written
    cases targeted : made.target (records.join (ofNames [directory, name])) false with
    | error fault =>
        simp only [targeted] at written
        cases written
    | ok location =>
        simp only [targeted] at written
        cases written
        rw [Disk.eq_place_of_locate (Disk.target_eq_ok targeted).1]

/-- After a record was stored, roots beside the records look the same. -/
theorem alike_put (plain : Plain [directory, name]) (rooted : disk.Rooted)
    (recordsStraight : Straight records disk) (straight : ∀ root ∈ roots, Straight root disk)
    (outside : ∀ root ∈ roots, Outside records directory name root disk)
    (written : put records (ofNames [directory, name]) content disk = (.ok (), after)) :
    Alike roots disk after := by
  have keeps := keeps_put records (ofNames [directory, name]) content disk
  rw [written] at keeps
  have free := (plain.isName name (.tail _ (.head _))).2
  -- All locations but that of the record are as they were when its directory was made.
  have entry (location : Location)
      (differ : (disk.place records ++ [directory] ++ [name]).key ≠ location.key) :
      after.at? location = disk.at? location ∨
        disk.at? location = none ∧ after.at? location = some .directory ∧
          location.Covers (disk.place records ++ [directory]) := by
    rw [put_eq_ok plain written, Disk.place_join_pair plain, Disk.at?_set_other differ]
    exact at?_prepare plain recordsStraight location
  refine ⟨rooted, straight, keeps.workingDirectory, keeps.directory, ?_, ?_⟩
  · intro root member location covers
    have isOutside := outside root member
    have differ := fun same => isOutside.not_below free (covers.trans (.of_key same))
    rcases entry location (Ne.symm differ) with kept | ⟨-, -, above⟩
    · exact kept
    · exact absurd (covers.trans above) isOutside.outer
  · intro root member location covers
    have isOutside := outside root member
    have differ := fun same => isOutside.inner ((Covers.of_key same).trans covers)
    rcases entry location differ with kept | ⟨nothing, isMade, -⟩
    · exact .inl kept
    · exact .inr ⟨nothing, isMade⟩

end CertPress.Store
