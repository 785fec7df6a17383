import CertPress.Proofs.Files.Rooted
import CertPress.Proofs.Store.Again

/-!
# What a store holds

A store whose keys lie in one directory holds a mapping from keys to contents: every key of
the mapping is read as its content, and there is nothing else below the root but their
directory.  Preparing a key leaves the mapping as it is, and a file that is written at the
place of a key is inserted under the key.
-/

namespace CertPress.Store

open FilePath (Plain ofNames)
open Location (Covers)

variable {root : FilePath} {directory name relative : String} {disk after : Disk}
variable {location : Location} {content : Bytes} {stored : Mapping Bytes}

/-! ## What preparing a key makes -/

/-- A root whose path does not go up behind a directory that is still to be made, so that
making the root makes nothing below it. -/
def Straight (root : FilePath) (disk : Disk) : Prop :=
  disk.isDirectory root ∨ ".." ∉ Disk.route root

/-- All locations on the way to a root are directories, or they cover it. -/
theorem Straight.way (straight : Straight root disk) {front rest : List String}
    (split : Disk.route root = front ++ rest) :
    (front.foldl Disk.next (disk.start root)).Covers (disk.place root) ∨
      disk.at? (front.foldl Disk.next (disk.start root)) = some .directory := by
  rcases straight with isDirectory | noUp
  · exact .inr (Disk.at?_of_isDirectory isDirectory split)
  · have noUpRest : ".." ∉ rest := fun member => noUp (split ▸ List.mem_append_right _ member)
    rw [Disk.place, split, List.foldl_append]
    exact .inl (Disk.covers_foldl_next noUpRest _)

section Key

variable (plain : Plain [directory, name])
include plain

/-- What lies under a key is at the place of the key. -/
theorem key_place (root : FilePath) (disk : Disk) :
    (disk.place (root.join (ofNames [directory, name]))).key =
      (disk.place root ++ [ofNames [directory, name]]).key := by
  apply String.toList_injective
  rw [Disk.place_join_pair plain, Disk.toList_key_concat, Disk.toList_key_concat,
    Disk.toList_key_concat, Record.Key.ofNames_pair]
  simp

theorem at?_place (root : FilePath) (disk : Disk) :
    disk.at? (disk.place (root.join (ofNames [directory, name]))) =
      disk.at? (disk.place root ++ [ofNames [directory, name]]) := by
  exact disk.at?_of_key (key_place plain root disk)

/-- All locations on the way to the directory of a key are directories, or they cover it. -/
theorem Straight.way_directory (straight : Straight root disk) {front rest : List String}
    (split : Disk.route (root.join directory) = front ++ rest) :
    (front.foldl Disk.next (disk.start (root.join directory))).Covers
        (disk.place root ++ [directory]) ∨
      disk.at? (front.foldl Disk.next (disk.start (root.join directory))) = some .directory := by
  rcases List.eq_nil_or_concat rest with rfl | ⟨more, last, rfl⟩
  · rw [List.append_nil] at split
    rw [← split, ← Disk.place, place_join_directory plain]
    exact .inl (.refl _)
  · rw [route_join_directory plain, List.concat_eq_append, ← List.append_assoc] at split
    obtain ⟨whole, -⟩ := List.append_inj' split rfl
    obtain ⟨rest, routed⟩ := Disk.exists_route whole
    have sameStart : disk.start (root.join directory) = disk.start root := by
      have relative := plain.head.isAbsolute
      rw [FilePath.ofNames_singleton] at relative
      rw [Disk.start, Disk.start, FilePath.isAbsolute_join_eq relative]
    rw [sameStart]
    exact (straight.way routed).imp_left fun covers => covers.trans (.concat _ _)

/-- Preparing a key makes nothing but directories that cover its own. -/
theorem at?_prepare (straight : Straight root disk) (location : Location) :
    (prepare (root.join (ofNames [directory, name])) disk).2.at? location = disk.at? location ∨
      disk.at? location = none ∧
        (prepare (root.join (ofNames [directory, name])) disk).2.at? location = some .directory ∧
        location.Covers (disk.place root ++ [directory]) := by
  have same : (prepare (root.join (ofNames [directory, name])) disk).2 =
      (Disk.makeDirectories (root.join directory) disk).2 := by
    rw [prepare_eq plain]
    split
    next outcome => rw [outcome]
    next outcome => rw [outcome]
  rw [same]
  cases refused : Disk.refusal? (root.join directory) with
  | some fault =>
      rw [Disk.makeDirectories, refused]
      exact .inl rfl
  | none =>
      rw [Disk.makeDirectories_eq (endsWithSlash_join_directory plain root) refused]
      rcases Disk.at?_makeFrom (Disk.route (root.join directory)) disk
        (disk.start (root.join directory)) location with
        kept | ⟨nothing, isMade, front, rest, split, -, isKey⟩
      · exact .inl kept
      refine .inr ⟨nothing, isMade, ?_⟩
      rcases straight.way_directory plain split with covers | directory
      · exact (Covers.of_key isKey).trans covers
      · rw [← disk.at?_of_key isKey, nothing] at directory
        cases directory

/-- Preparing a key makes nothing below its root but its directory. -/
theorem at?_prepare_below (straight : Straight root disk) (relative : String) :
    (prepare (root.join (ofNames [directory, name])) disk).2.at? (disk.place root ++ [relative]) =
        disk.at? (disk.place root ++ [relative]) ∨
      (prepare (root.join (ofNames [directory, name])) disk).2.at?
        (disk.place root ++ [relative]) = some .directory ∧ relative = directory := by
  refine (at?_prepare plain straight _).imp_right fun ⟨_, isMade, covers⟩ => ⟨isMade, ?_⟩
  rcases Covers.of_concat (plain.isName directory (.head _)).2 covers with same | above
  · exact Disk.key_concat_inj.mp same
  · exact absurd above Covers.not_concat

end Key

/-! ## The mapping of a store -/

/-- A store whose keys lie in one directory holds a mapping from keys to contents. -/
structure Holds (root : FilePath) (directory : String) (stored : Mapping Bytes) (disk : Disk) :
    Prop where
  straight : Straight root disk
  object : ∀ key content, stored.get? key = some content →
    (∃ name, Plain [directory, name] ∧ key = ofNames [directory, name]) ∧
      read root key disk = .ok content
  file : ∀ relative content executable,
    disk.at? (disk.place root ++ [relative]) = some (.file content executable) →
      stored.get? relative = some content
  home : ∀ relative, disk.at? (disk.place root ++ [relative]) = some .directory →
    relative = directory

/-- Where nothing lies below a root, its store holds nothing. -/
theorem holds_empty (straight : Straight root disk)
    (nothing : disk.below (disk.place root) = []) (directory : String) :
    Holds root directory Mapping.empty disk := by
  have noEntry (relative : String) (entry : Entry) :
      disk.at? (disk.place root ++ [relative]) ≠ some entry := by
    intro isThere
    have member := Disk.mem_below.mpr isThere
    rw [nothing] at member
    cases member
  constructor
  · exact straight
  · intro key content isStored
    cases isStored
  · exact fun relative content executable isThere => absurd isThere (noEntry relative _)
  · exact fun relative isThere => absurd isThere (noEntry relative _)

namespace Holds

variable (holds : Holds root directory stored disk)
include holds

theorem at?_of_get? {key : String} (isStored : stored.get? key = some content) :
    ∃ executable, disk.at? (disk.place root ++ [key]) = some (.file content executable) := by
  obtain ⟨⟨name, plain, rfl⟩, isRead⟩ := holds.object key content isStored
  obtain ⟨-, isFile⟩ := Disk.read_eq_ok.mp (read_eq_ok.mp isRead).2
  unfold Disk.file? at isFile
  split at isFile
  next found executable isThere =>
    cases isFile
    exact ⟨executable, at?_place plain root disk ▸ isThere⟩
  next => cases isFile

/-- The files below the root are the keys of the mapping. -/
theorem mem_tree : relative ∈ disk.tree (disk.place root) ↔ stored.contains relative := by
  rw [Disk.mem_tree, Mapping.contains, Option.isSome_iff_exists]
  constructor
  · rintro ⟨content, executable, isThere⟩
    exact ⟨content, holds.file relative content executable isThere⟩
  · rintro ⟨content, isStored⟩
    exact ⟨content, holds.at?_of_get? isStored⟩

variable (plain : Plain [directory, name])
include plain

theorem prepare : Holds root directory stored
    (prepare (root.join (ofNames [directory, name])) disk).2 := by
  have keeps := keeps_prepare (root.join (ofNames [directory, name])) disk
  constructor
  · exact holds.straight.imp_left (Disk.isDirectory_of_keeps keeps)
  · intro key content isStored
    exact (holds.object key content isStored).imp_right (read_of_keeps keeps trivial)
  · intro relative content executable isThere
    rw [keeps.place] at isThere
    rcases at?_prepare_below plain holds.straight relative with kept | ⟨isMade, -⟩
    · exact holds.file relative content executable (kept ▸ isThere)
    · cases isMade.symm.trans isThere
  · intro relative isThere
    rw [keeps.place] at isThere
    rcases at?_prepare_below plain holds.straight relative with kept | ⟨-, isHome⟩
    · exact holds.home relative (kept ▸ isThere)
    · exact isHome

/-- No directory lies under a key. -/
theorem not_directory :
    disk.at? (disk.place (root.join (ofNames [directory, name]))) ≠ some .directory := by
  rw [at?_place plain]
  intro isThere
  have chars := congrArg (fun key => key.toList.length) (holds.home _ isThere)
  simp [Record.Key.ofNames_pair] at chars

theorem not_directory_of_prepare {made : Disk} {result : Except StoreFault Unit}
    (prepared : Store.prepare (root.join (ofNames [directory, name])) disk = (result, made)) :
    made.at? (made.place (root.join (ofNames [directory, name]))) ≠ some .directory := by
  have holdsMade := holds.prepare plain
  rw [prepared] at holdsMade
  exact holdsMade.not_directory plain

/-- What is under a key is what the mapping has there. -/
theorem get?_of_at? {entry : Entry}
    (isThere : disk.at? (disk.place (root.join (ofNames [directory, name]))) = some entry) :
    ∃ content executable, entry = .file content executable ∧
      stored.get? (ofNames [directory, name]) = some content := by
  cases entry with
  | directory => exact absurd isThere (holds.not_directory plain)
  | file content executable =>
      rw [at?_place plain] at isThere
      exact ⟨content, executable, rfl, holds.file _ content executable isThere⟩

/-- A file that is written at the place of a key is inserted under the key. -/
theorem set (located : disk.locate (root.join (ofNames [directory, name])) = .ok location)
    (content : Bytes) :
    Holds root directory (stored.insert (ofNames [directory, name]) content)
      (disk.set location (.file content false)) := by
  have isPlace := Disk.eq_place_of_locate located
  rw [isPlace] at located ⊢
  have filled : ∀ relative : String, disk.place root ++ [relative] ≠ [] := by simp
  have keeps := Disk.keeps_set_file (holds.not_directory plain) content false
  constructor
  · exact holds.straight.imp_left (Disk.isDirectory_of_keeps keeps)
  · intro key written isStored
    rw [Mapping.get?_insert] at isStored
    split at isStored
    next same =>
      cases isStored
      subst same
      refine ⟨⟨name, plain, rfl⟩, read_eq_ok.mpr ⟨FilePath.isInner_ofNames plain, ?_⟩⟩
      rw [Disk.read_eq_ok, keeps.place]
      refine ⟨keeps.locate located, ?_⟩
      have notRoot : disk.place (root.join (ofNames [directory, name])) ≠ [] := by
        rw [Disk.place_join plain]
        simp
      rw [Disk.file?, Disk.at?_set _ _ _ _ notRoot, if_pos rfl]
    next differ =>
      obtain ⟨⟨other, plainOther, rfl⟩, isRead⟩ := holds.object key written isStored
      refine ⟨⟨other, plainOther, rfl⟩, read_of_keeps keeps ?_ isRead⟩
      rw [key_place plain, key_place plainOther]
      exact fun same => differ (Disk.key_concat_inj.mp same).symm
  · intro relative written executable isThere
    rw [keeps.place, Disk.at?_set _ _ _ _ (filled relative), key_place plain] at isThere
    rw [Mapping.get?_insert]
    split at isThere
    next same =>
      cases isThere
      rw [if_pos (Disk.key_concat_inj.mp same)]
    next differ =>
      rw [if_neg (mt Disk.key_concat_inj.mpr differ)]
      exact holds.file relative written executable isThere
  · intro relative isThere
    rw [keeps.place, Disk.at?_set _ _ _ _ (filled relative)] at isThere
    split at isThere
    next => cases isThere
    next => exact holds.home relative isThere

end Holds

/-! ## Writes -/

/-- The mapping after a write, which inserts the content if it succeeds. -/
def insertIfOk {α : Type} (stored : Mapping Bytes) (key : String) (content : Bytes) :
    Except StoreFault α → Mapping Bytes
  | .ok _ => stored.insert key content
  | .error _ => stored

theorem holds_put {result : Except StoreFault Unit} (holds : Holds root directory stored disk)
    (plain : Plain [directory, name])
    (written : put root (ofNames [directory, name]) content disk = (result, after)) :
    Holds root directory (insertIfOk stored (ofNames [directory, name]) content result) after := by
  have holdsMade := holds.prepare plain
  rcases prepared : prepare (root.join (ofNames [directory, name])) disk with ⟨fault | _, made⟩
  · rw [prepared] at holdsMade
    cases (put_of_unprepared plain prepared).symm.trans written
    exact holdsMade
  · rw [prepared] at holdsMade
    have notDirectory := holdsMade.not_directory plain
    rw [put_of_prepare plain prepared] at written
    unfold Disk.write at written
    cases located : made.locate (root.join (ofNames [directory, name])) with
    | error fault =>
        rw [target_of_not_located plain false located] at written
        cases written
        exact holdsMade
    | ok location =>
        have holdsSet := holdsMade.set plain located content
        rw [← Disk.eq_place_of_locate located] at notDirectory
        rw [target_of_locate plain located] at written
        cases isThere : made.at? location with
        | none =>
            simp only [isThere] at written
            cases written
            exact holdsSet
        | some entry =>
            have isFile : entry ≠ .directory := fun same => notDirectory (same ▸ isThere)
            simp only [isThere, Bool.false_eq_true, if_false, if_neg isFile] at written
            cases written
            exact holdsSet

open Record (Key.imageName)

/-- An image that is there already has to have the same bytes. -/
theorem holds_saveImage {id : Uuid} {kind extension : String} {result : Except StoreFault String}
    (holds : Holds root "certificates" stored disk)
    (plain : Plain ["certificates", Key.imageName id kind (shortDigest content) extension])
    (agrees : ∀ other, stored.get? (Record.Key.asset id kind (shortDigest content) extension) =
      some other → other = content)
    (saved : saveImage root content id kind extension disk = (result, after)) :
    Holds root "certificates" (insertIfOk stored
      (Record.Key.asset id kind (shortDigest content) extension) content result) after := by
  have holdsMade := holds.prepare plain
  rw [Record.Key.asset_eq] at agrees ⊢
  rcases prepared : prepare (root.join (ofNames
    ["certificates", Key.imageName id kind (shortDigest content) extension])) disk with
    ⟨fault | _, made⟩
  · rw [prepared] at holdsMade
    cases (saveImage_of_unprepared plain prepared).symm.trans saved
    exact holdsMade
  · rw [prepared] at holdsMade
    rw [saveImage_of_prepare plain prepared,
      saveImage_of_isDirectory plain (isDirectory_of_prepare plain prepared),
      Record.Key.asset_eq] at saved
    cases located : made.locate (root.join (ofNames
      ["certificates", Key.imageName id kind (shortDigest content) extension])) with
    | error fault =>
        simp only [located] at saved
        cases saved
        exact holdsMade
    | ok location =>
        have holdsSet := holdsMade.set plain located content
        simp only [located] at saved
        cases isThere : made.at? location with
        | none =>
            simp only [isThere] at saved
            cases saved
            exact holdsSet
        | some entry =>
            simp only [isThere] at saved
            cases saved
            rw [Disk.eq_place_of_locate located] at isThere
            obtain ⟨other, executable, -, isStored⟩ := holdsMade.get?_of_at? plain isThere
            obtain rfl := agrees other isStored
            rw [← Mapping.insert_of_get? isStored] at holdsMade
            exact holdsMade

end CertPress.Store
