import CertPress.Proofs.Files.Frame
import CertPress.Proofs.Keys
import CertPress.Proofs.Text.Ascii
import Mathlib.Data.List.Nodup
import Mathlib.Data.List.Perm.Subperm

/-!
# Writing through a temporary file

A temporary file has a name that nothing has and that no path goes through.  So a path leads
where it led before, and once the file has taken its place, or was removed, the disk is the
one that a write in a single step leaves.
-/

namespace CertPress

namespace Disk

/-! ## Names that are not taken -/

theorem temporaryName_injective : Function.Injective temporaryName := by
  intro number other same
  have digits : Text.decimalPadded 6 number = Text.decimalPadded 6 other := by
    simp only [temporaryName, String.append_right_inj] at same
    exact String.ofList_injective same
  have isNumber : Nat.ofDigitChars 10 (Text.decimalPadded 6 number) 0 = number :=
    Text.ofDigitChars_decimalPadded
  rw [← isNumber, digits, Text.ofDigitChars_decimalPadded]

/-- There are more numbers than taken names, so one of them is free. -/
theorem unusedName_not_mem (taken : List String) : unusedName taken ∉ taken := by
  obtain ⟨free, isFree⟩ : ∃ free, ((List.range (taken.length + 1)).find? fun number =>
      !taken.contains (temporaryName number)) = some free := by
    rw [← Option.isSome_iff_exists, List.find?_isSome]
    by_contra allTaken
    have sub : (List.range (taken.length + 1)).map temporaryName ⊆ taken := by
      intro name member
      obtain ⟨number, inRange, rfl⟩ := List.mem_map.mp member
      by_contra isFree
      exact allTaken ⟨number, inRange, by simpa using isFree⟩
    have distinct : ((List.range (taken.length + 1)).map temporaryName).Nodup :=
      List.Nodup.map temporaryName_injective List.nodup_range
    have few := (List.subperm_of_subset distinct sub).length_le
    simp at few
  rw [unusedName, isFree, Option.getD_some]
  simpa using List.find?_some isFree

theorem exists_unusedName (taken : List String) :
    ∃ number, unusedName taken = temporaryName number := ⟨_, rfl⟩

theorem slash_not_mem_temporaryName (number : Nat) : '/' ∉ (temporaryName number).toList := by
  intro member
  rw [temporaryName, String.toList_append, List.mem_append] at member
  rcases member with inStart | inDigits
  · exact absurd inStart (by decide)
  · rw [String.toList_ofList] at inDigits
    exact absurd (Text.isDigit_decimalPadded inDigits) (by decide)

theorem length_temporaryName_pos (number : Nat) : 4 < (temporaryName number).toList.length := by
  simp [temporaryName, Text.decimalPadded]
  omega

/-! ## Last names -/

theorem lastName_of_free {name : String} (free : '/' ∉ name.toList) : lastName name = name := by
  have all : ∀ char ∈ name.toList.reverse, (char != '/') = true := by
    intro char member
    have differ : char ≠ '/' := by
      rintro rfl
      exact free (List.mem_reverse.mp member)
    simpa using differ
  have whole : (name.toList.reverse ++ []).takeWhile (· != '/') = name.toList.reverse ++ [] :=
    List.takeWhile_append_of_pos all
  rw [List.append_nil] at whole
  rw [lastName, whole, List.reverse_reverse, String.ofList_toList]

/-- The last name of a location's text is that of its last part. -/
theorem lastName_key_concat (front : Location) (name : String) :
    lastName (front ++ [name]).key = lastName name := by
  have slash : (['/'] ++ front.key.toList.reverse).takeWhile (· != '/') = [] := rfl
  rw [lastName, lastName, toList_key_concat, List.reverse_append, List.reverse_cons,
    List.append_assoc, List.takeWhile_append]
  split
  next whole =>
    rw [slash, List.append_nil, List.IsPrefix.eq_of_length (List.takeWhile_prefix _) whole]
  next => rfl

/-- A name that nothing on a disk has, and no part of a path. -/
structure Fresh (disk : Disk) (path : FilePath) (name : String) : Prop where
  free : lastName name = name
  long : 4 < name.toList.length
  entries : ∀ entry ∈ disk.entries.entries, lastName entry.1 ≠ name
  start : ∀ other ∈ disk.workingDirectory, lastName other ≠ name
  pieces : ∀ piece ∈ path.pieces, lastName (String.ofList piece) ≠ name

theorem fresh_unusedName (disk : Disk) (path : FilePath) :
    disk.Fresh path (unusedName (disk.takenNames path)) := by
  have notTaken := unusedName_not_mem (disk.takenNames path)
  obtain ⟨number, isName⟩ := exists_unusedName (disk.takenNames path)
  have apart {name : String} (member : name ∈ disk.entries.entries.map (·.1) ++
      disk.workingDirectory ++ path.pieces.map String.ofList) :
      lastName name ≠ unusedName (disk.takenNames path) := fun same =>
    notTaken (same ▸ List.mem_map_of_mem member)
  constructor
  · rw [isName]
    exact lastName_of_free (slash_not_mem_temporaryName number)
  · rw [isName]
    exact length_temporaryName_pos number
  · exact fun entry member => apart
      (List.mem_append_left _ (List.mem_append_left _ (List.mem_map_of_mem member)))
  · exact fun other member => apart (List.mem_append_left _ (List.mem_append_right _ member))
  · exact fun piece member => apart (List.mem_append_right _ (List.mem_map_of_mem member))

/-- The parts of a path stay when slashes at its end are dropped. -/
theorem pieces_dropTrailing (path : FilePath) :
    ∀ piece ∈ (⟨String.ofList (Text.dropTrailing '/' path.text.toList)⟩ : FilePath).pieces,
      piece ∈ path.pieces := by
  intro piece member
  obtain ⟨count, whole⟩ := Text.eq_dropTrailing '/' path.text.toList
  rw [FilePath.pieces, String.toList_ofList] at member
  rw [FilePath.pieces, whole]
  cases count with
  | zero => simpa using member
  | succ more =>
      rw [List.replicate_succ, Text.split_append]
      exact List.mem_append_left _ member

/-! ## Walks that do not meet a temporary file -/

/-- A location on the way of which a name does not occur. -/
def Clear (fresh : String) (location : Location) : Prop :=
  ∀ name ∈ location, lastName name ≠ fresh

section Staged

variable {disk : Disk} {directory here : Location} {path : FilePath} {names : List String}
variable {fresh name : String} {entry : Entry}

theorem clear_next (clear : Clear fresh here) (apart : lastName name ≠ fresh) :
    Clear fresh (next here name) := by
  intro other member
  unfold next at member
  split at member
  next => exact clear other member
  next =>
    split at member
    next => exact clear other (List.mem_of_mem_dropLast member)
    next =>
      rcases List.mem_append.mp member with inHere | isName
      · exact clear other inHere
      · exact List.mem_singleton.mp isName ▸ apart

theorem clear_foldl (clear : Clear fresh here) (apart : ∀ name ∈ names, lastName name ≠ fresh) :
    Clear fresh (names.foldl next here) := by
  induction names generalizing here with
  | nil => exact clear
  | cons name rest hypothesis =>
      exact hypothesis (clear_next clear (apart name (.head _)))
        fun other member => apart other (.tail _ member)

section Fresh

variable (isFresh : disk.Fresh path fresh)
include isFresh

theorem key_ne_of_fresh (clear : Clear fresh here) : here.key ≠ (directory ++ [fresh]).key := by
  intro same
  have names := congrArg lastName same
  rw [lastName_key_concat, isFresh.free] at names
  rcases here.eq_nil_or_concat with rfl | ⟨front, last, rfl⟩
  · have long := isFresh.long
    rw [← names] at long
    cases long
  · rw [List.concat_eq_append] at clear names
    rw [lastName_key_concat] at names
    exact clear last (by simp) names

theorem at?_fresh : disk.at? (directory ++ [fresh]) = none := by
  rw [at?, if_neg (by simp)]
  by_contra isThere
  obtain ⟨entry, member, same⟩ := Mapping.contains_iff.mp (Option.isSome_iff_ne_none.mpr isThere)
  have names := congrArg lastName same
  rw [lastName_key_concat, isFresh.free] at names
  exact isFresh.entries entry member names

/-- What is at other places does not change. -/
theorem at?_set_fresh (clear : Clear fresh here) :
    (disk.set (directory ++ [fresh]) entry).at? here = disk.at? here := by
  rcases here with _ | ⟨first, rest⟩
  · rfl
  · rw [at?_set _ _ _ _ (List.cons_ne_nil _ _), if_neg (key_ne_of_fresh isFresh clear).symm]

/-- Names that are not that of the file lead where they led before, by induction on them. -/
theorem walk_set_fresh (clear : Clear fresh here) (apart : ∀ name ∈ names, lastName name ≠ fresh) :
    names.foldlM (disk.set (directory ++ [fresh]) entry).step here =
      names.foldlM disk.step here := by
  induction names generalizing here with
  | nil => rfl
  | cons name rest hypothesis =>
      have same : (disk.set (directory ++ [fresh]) entry).step here name = disk.step here name := by
        simp only [step, at?_set_fresh isFresh clear]
      rw [List.foldlM_cons, List.foldlM_cons, same]
      cases stepped : disk.step here name with
      | error fault => rfl
      | ok found =>
          obtain rfl := eq_next_of_step stepped
          exact hypothesis (clear_next clear (apart name (.head _)))
            fun other member => apart other (.tail _ member)

theorem clear_start (other : FilePath) : Clear fresh (disk.start other) := by
  unfold start
  split
  next => exact fun _ member => absurd member List.not_mem_nil
  next => exact isFresh.start

theorem apart_route {other : FilePath} (pieces : ∀ piece ∈ other.pieces, piece ∈ path.pieces) :
    ∀ name ∈ route other, lastName name ≠ fresh := by
  have inPieces : ∀ name ∈ (other.pieces.filter (!List.isEmpty ·)).map String.ofList,
      lastName name ≠ fresh := by
    intro name member
    obtain ⟨piece, inPieces, rfl⟩ := List.mem_map.mp member
    exact isFresh.pieces piece (pieces piece (List.mem_filter.mp inPieces).1)
  intro name member
  rw [route] at member
  split at member
  next =>
    rcases List.mem_append.mp member with inNames | isHere
    · exact inPieces name inNames
    · obtain rfl := List.mem_singleton.mp isHere
      intro same
      have long := isFresh.long
      rw [← same] at long
      exact absurd long (by decide)
  next => exact inPieces name member

/-- A path with parts of the first one leads where it led before. -/
theorem locate_set_fresh {other : FilePath}
    (pieces : ∀ piece ∈ other.pieces, piece ∈ path.pieces) :
    (disk.set (directory ++ [fresh]) entry).locate other = disk.locate other := by
  unfold locate
  split
  next => rfl
  next =>
    split
    next => rfl
    next => exact walk_set_fresh isFresh (clear_start isFresh other) (apart_route isFresh pieces)

theorem clear_of_locate {other : FilePath} (pieces : ∀ piece ∈ other.pieces, piece ∈ path.pieces)
    (located : disk.locate other = .ok here) : Clear fresh here := by
  obtain rfl := eq_place_of_locate located
  exact clear_foldl (clear_start isFresh other) (apart_route isFresh pieces)

/-- A file is written to where it would have been written before. -/
theorem target_set_fresh (kept : Bool) :
    (disk.set (directory ++ [fresh]) entry).target path kept = disk.target path kept := by
  have trimmed := pieces_dropTrailing path
  unfold target
  dsimp only
  split
  next =>
    rw [locate_set_fresh isFresh trimmed]
    cases located : disk.locate ⟨String.ofList (Text.dropTrailing '/' path.text.toList)⟩ with
    | error fault => rfl
    | ok location =>
        have clear := clear_of_locate isFresh trimmed located
        simp only [bind, Except.bind, at?_set_fresh isFresh clear]
  next =>
    rw [locate_set_fresh isFresh fun _ => id]
    cases located : disk.locate path with
    | error fault => rfl
    | ok location =>
        have clear := clear_of_locate isFresh (fun _ => id) located
        simp only [bind, Except.bind, at?_set_fresh isFresh clear]

theorem clear_of_target {kept : Bool} (targeted : disk.target path kept = .ok here) :
    Clear fresh here := by
  cases kept with
  | false => exact clear_of_locate isFresh (fun _ => id) (target_eq_ok targeted).1
  | true => exact clear_of_locate isFresh (fun _ => id) (target_new_eq_ok targeted).1

/-! ## The file takes its place -/

/-- A temporary file that is removed leaves nothing behind. -/
theorem erase_set_fresh : (disk.set (directory ++ [fresh]) entry).erase (directory ++ [fresh]) =
    disk := by
  have nothing : disk.at? (directory ++ [fresh]) = none := at?_fresh isFresh
  rw [at?, if_neg (by simp)] at nothing
  have same : (disk.entries.insert (directory ++ [fresh]).key entry).erase
      (directory ++ [fresh]).key = disk.entries := by
    refine Mapping.ext_get? fun key => ?_
    rw [Mapping.get?_erase, Mapping.get?_insert]
    split
    next isKey => rw [← isKey, nothing]
    next => rfl
  rw [erase, set, same]

/-- A temporary file takes its place as if it had been written there. -/
theorem rename_fresh (kept : Bool) :
    rename (directory ++ [fresh]) path kept (disk.set (directory ++ [fresh]) entry) =
      match disk.target path kept with
      | .ok location => (.ok (), disk.set location entry)
      | .error fault => (.error fault, disk.set (directory ++ [fresh]) entry) := by
  have nothing : disk.at? (directory ++ [fresh]) = none := at?_fresh isFresh
  unfold rename
  rw [at?_set_self nothing, target_set_fresh isFresh]
  cases targeted : disk.target path kept with
  | error fault => rfl
  | ok location =>
      have apart : location.key ≠ (directory ++ [fresh]).key :=
        key_ne_of_fresh isFresh (clear_of_target isFresh targeted)
      rw [at?, if_neg (by simp)] at nothing
      have same : ((disk.entries.insert (directory ++ [fresh]).key entry).insert location.key
          entry).erase (directory ++ [fresh]).key = disk.entries.insert location.key entry := by
        refine Mapping.ext_get? fun key => ?_
        simp only [Mapping.get?_erase, Mapping.get?_insert]
        split
        next isKey => rw [← isKey, if_neg apart, nothing]
        next => rfl
      simp only [erase, set, same]

end Fresh

end Staged

end Disk

namespace Store

variable {root : FilePath} {key : String} {content : Bytes} {disk after : Disk}

/-- An object is written as if it was written in one step. -/
theorem put_eq (root : FilePath) (key : String) (content : Bytes) : put root key content = (do
    let path ← objectPath root key
    prepare path
    fun disk => match Disk.write path content false disk with
      | (.ok (), written) => (.ok (), written)
      | (.error fault, same) => (.error (.disk path fault), same)) := by
  funext disk
  unfold put stage
  simp only [Action.run_bind]
  rcases (liftM (objectPath root key) : StoreAction FilePath) disk with ⟨fault | path, same⟩
  · rfl
  · dsimp only
    rcases prepare path same with ⟨fault | _, made⟩
    · rfl
    · have isFresh := made.fresh_unusedName path
      dsimp only
      rw [Disk.rename_fresh isFresh]
      unfold Disk.write
      cases made.target path false with
      | error fault => simp only [Disk.erase_set_fresh isFresh]
      | ok location => rfl

theorem putIfAbsent_eq (root : FilePath) (key : String) (content : Bytes) :
    putIfAbsent root key content = (do
      let path ← objectPath root key
      prepare path
      fun disk => match Disk.writeNew path content disk with
        | (.ok (), written) => (.ok true, written)
        | (.error .alreadyExists, same) => (.ok false, same)
        | (.error fault, same) => (.error (.disk path fault), same)) := by
  funext disk
  unfold putIfAbsent stage
  simp only [Action.run_bind]
  rcases (liftM (objectPath root key) : StoreAction FilePath) disk with ⟨fault | path, same⟩
  · rfl
  · dsimp only
    rcases prepare path same with ⟨fault | _, made⟩
    · rfl
    · have isFresh := made.fresh_unusedName path
      dsimp only
      rw [Disk.rename_fresh isFresh]
      unfold Disk.writeNew
      cases made.target path true with
      | error fault => cases fault <;> simp only [Disk.erase_set_fresh isFresh]
      | ok location => rfl

/-- What was put under a key is read under it. -/
theorem read_put {root : FilePath} {key : String} {content : Bytes} {disk after : Disk}
    (done : put root key content disk = (.ok (), after)) :
    read root key after = .ok content := by
  rw [put_eq] at done
  obtain ⟨path, between, found, rest⟩ := Action.bind_eq_ok.mp done
  obtain ⟨isPath, rfl⟩ := Action.lift_eq_ok.mp found
  obtain ⟨_, made, prepared, wrote⟩ := Action.bind_eq_ok.mp rest
  have written : Disk.write path content false made = (.ok (), after) := by
    split at wrote
    next disk written => cases wrote; exact written
    next => cases wrote
  rw [read, isPath]
  simp only [bind, Except.bind, Disk.read_write written]
  rfl

end Store

end CertPress
